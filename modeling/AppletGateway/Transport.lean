import AppletGateway.Guid

/-!
# Message channels to the co-processor

What the link asks of a channel: to connect to a logical client, to send and receive single
messages of bounded length, to say whether one is waiting, and to disconnect. Nothing is assumed of
the answers: a channel may fail at any call, take less than it is offered, and report more than it
delivered.
-/

namespace AppletGateway

/-- What a channel reports of one received message. -/
structure Received where
  /-- The bytes it put into the buffer; the buffer is zero behind them. -/
  data : Bytes
  /-- The number of bytes it says it received; zero says that the other side is gone. -/
  count : Nat
  deriving DecidableEq

/-- A message delivered as announced. -/
def Received.ofData (data : Bytes) : Received := ⟨data, data.length⟩

/-- A message channel in a state of type `τ` (`Transport`). A call that fails gives `none`. -/
class Transport (τ : Type) where
  /-- Connects to a logical client and gives the length of the longest message. -/
  connect : Guid → τ → Option Nat × τ
  /-- Sends one message and gives the number of bytes that were taken. -/
  send : Bytes → τ → Option Nat × τ
  /-- Receives one message into a buffer with the given room. -/
  receive : (room : Nat) → τ → Option Received × τ
  /-- Whether a message is waiting. -/
  available : τ → Bool
  /-- Tears the connection down, if there is one. -/
  disconnect : τ → τ
  /-- A bound on the number of messages that can be received one after another
  (`Transport.Bounded`). Whoever waits for more reports a failure of the channel. -/
  backlog : τ → Nat

namespace Transport

variable {τ : Type} [Transport τ]

/-- After at most so many messages the channel fails, or says that the other side is gone. -/
def GivesAtMost (room : Nat) : Nat → τ → Prop
  | 0, t => ∀ r, (receive room t).1 = some r → r.count = 0
  | k + 1, t => ∀ r, (receive room t).1 = some r → r.count ≠ 0 →
    GivesAtMost room k (receive room t).2

/-- The bound that a channel gives holds in every state. -/
class Bounded (τ : Type) [Transport τ] : Prop where
  givesAtMost : ∀ (room : Nat) (t : τ), GivesAtMost room (backlog t) t

/-- What becomes less with each message bounds their number. -/
theorem givesAtMost_of_lt {room : Nat} {size : τ → Nat} (h : ∀ t r, (receive room t).1 = some r →
    r.count ≠ 0 → size (receive room t).2 < size t) {k : Nat} {t : τ} (hk : size t ≤ k) :
    GivesAtMost room k t := by
  induction k generalizing t with
  | zero =>
    refine fun r hr => Decidable.byContradiction fun hcount => ?_
    have hless := h t r hr hcount
    omega
  | succ k ih =>
    intro r hr hcount
    have hless := h t r hr hcount
    exact ih (by omega)

end Transport

/-- The channel to a co-processor that is never reachable (`NullTransport`). -/
structure Unreachable
  deriving DecidableEq, Inhabited

instance : Transport Unreachable where
  connect _ t := (none, t)
  send _ t := (none, t)
  receive _ t := (some ⟨[], 0⟩, t)
  available _ := false
  disconnect t := t
  backlog _ := 0

instance : Transport.Bounded Unreachable where
  givesAtMost _ _ := by
    rintro r ⟨⟩
    rfl

end AppletGateway
