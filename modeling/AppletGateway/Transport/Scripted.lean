import AppletGateway.Transport

/-!
# A channel that follows a script

A message channel whose answers are laid down beforehand, one queue per kind of call, and which
keeps a record of the calls made. It brings about what a device seldom does: partial sends, frames
cut at any place, counts that do not agree with the data, failures at any step.
-/

namespace AppletGateway

/-- One scripted answer to a call that receives. -/
inductive Scripted.Delivery
  /-- These bytes, over as many calls as the room makes necessary. -/
  | data (bytes : Bytes)
  /-- The other side is gone. -/
  | closed
  | failure
  /-- These bytes, as far as there is room, but reported as `count` of them. -/
  | miscounted (count : Nat) (bytes : Bytes)
  deriving DecidableEq

/-- A call that was made and how it was answered; `none` is a failure. -/
inductive Scripted.Call
  | connect (client : Guid) (answer : Option Nat)
  | send (message : Bytes) (answer : Option Nat)
  | receive (room : Nat) (answer : Option Nat)
  | disconnect
  deriving DecidableEq

/-- A scripted channel: the answers still to be given and the calls made so far. -/
structure Scripted where
  /-- The longest message per connection; `none` is a failure. -/
  connects : List (Option Nat) := []
  /-- The counts of bytes taken; `none` is a failure. -/
  sends : List (Option Nat) := []
  deliveries : List Scripted.Delivery := []
  calls : List Scripted.Call := []
  deriving Inhabited

namespace Scripted

/-- The longest message of a connection that the script does not mention. -/
def defaultMessage : Nat := 64

/-- Adds to the record of calls. -/
def note (c : Call) (s : Scripted) : Scripted := { s with calls := s.calls ++ [c] }

/-- Connects as the script says. -/
def connect (client : Guid) (s : Scripted) : Option Nat × Scripted :=
  let answer := s.connects.head?.getD (some defaultMessage)
  (answer, { s with connects := s.connects.tail }.note (.connect client answer))

/-- Takes as much as the script says, or everything. -/
def send (message : Bytes) (s : Scripted) : Option Nat × Scripted :=
  let answer := s.sends.head?.getD (some message.length)
  (answer, { s with sends := s.sends.tail }.note (.send message answer))

/-- What the next delivery puts into a buffer with some room, and the deliveries after it. -/
def deliver (room : Nat) : List Delivery → Option Received × List Delivery
  | .data b :: rest =>
    let left := b.drop room
    (some (.ofData (b.take room)), if left = [] then rest else .data left :: rest)
  | .closed :: rest => (some ⟨[], 0⟩, rest)
  | .failure :: rest => (none, rest)
  | .miscounted count b :: rest => (some ⟨b.take room, count⟩, rest)
  | [] => (none, [])

/-- Receives as the script says. -/
def receive (room : Nat) (s : Scripted) : Option Received × Scripted :=
  let (received, deliveries) := deliver room s.deliveries
  (received, { s with deliveries := deliveries }.note (.receive room (received.map Received.count)))

/-- The bytes still to be delivered, and one for each delivery. -/
def underway : List Delivery → Nat
  | [] => 0
  | .data b :: rest => b.length + 1 + underway rest
  | _ :: rest => 1 + underway rest

instance : Transport Scripted where
  connect := connect
  send := send
  receive := receive
  available s := !s.deliveries.isEmpty
  disconnect s := s.note .disconnect
  backlog s := underway s.deliveries

theorem underway_deliver_lt {room : Nat} {r : Received} {l : List Delivery}
    (hr : (deliver room l).1 = some r) (hcount : r.count ≠ 0) :
    underway (deliver room l).2 < underway l := by
  match l with
  | [] => cases hr
  | .failure :: rest => cases hr
  | .closed :: rest =>
    obtain rfl := Option.some.inj hr
    exact absurd rfl hcount
  | .miscounted count b :: rest =>
    show underway rest < 1 + underway rest
    omega
  | .data b :: rest =>
    obtain rfl := Option.some.inj hr
    have hcount : (b.take room).length ≠ 0 := hcount
    rw [List.length_take] at hcount
    show underway (if b.drop room = [] then rest else .data (b.drop room) :: rest) <
      b.length + 1 + underway rest
    split
    · omega
    · rw [underway, List.length_drop]
      omega

instance : Transport.Bounded Scripted where
  givesAtMost _ _ := Transport.givesAtMost_of_lt (fun _ _ => underway_deliver_lt) (Nat.le_refl _)

end Scripted

end AppletGateway
