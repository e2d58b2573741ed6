import AppletGateway.Relay
import AppletGateway.Table

/-!
# The client's end of a socket connection

The client keeps its handlers and calls each by a number, the same until the handler is released.

Two threads of the client see to the events. One reads them off the socket and puts them into a
queue of 64; an event that finds the queue full is dropped. The other takes them out of the queue
and gives each to the handler that has the number of the event by then; if none has, the event is
dropped.
-/

namespace AppletGateway.Socket

open Applet (Event)

/-- The client's end of a connection (`ClientShared`). -/
structure ClientEnd where
  /-- The handlers in use, by number. -/
  handlers : Table UInt32 Handler := Table.empty
  nextNumber : UInt32 := 1
  /-- Whether the other end is gone. -/
  closed : Bool := false
  /-- Whether events are still delivered; a handler that breaks down ends that. -/
  delivering : Bool := true
  /-- The events on their way to this end, oldest first, with the numbers that they are for. -/
  incoming : List (UInt32 × Event) := []
  /-- The events in the queue, oldest first. -/
  waiting : List (UInt32 × Event) := []

namespace ClientEnd

/-- The number of a handler among some entries. -/
def numberIn (h : Handler) (entries : List (UInt32 × Handler)) : Option UInt32 :=
  (entries.find? fun e => e.2 = h).map Prod.fst

/-- The number of a handler: the one it has, or a new one (`object_id`). -/
def number (h : Handler) (c : ClientEnd) : UInt32 × ClientEnd :=
  match numberIn h c.handlers.entries with
  | some n => (n, c)
  | none =>
    (c.nextNumber,
      { c with handlers := c.handlers.set c.nextNumber h, nextNumber := c.nextNumber + 1 })

/-- The numbers of some handlers, in order. -/
def numbers : List Handler → ClientEnd → List UInt32 × ClientEnd
  | [], c => ([], c)
  | h :: hs, c =>
    let (n, c) := c.number h
    let (ns, c) := numbers hs c
    (n :: ns, c)

/-- Takes the number of a handler away (`release`). -/
def release (h : Handler) (c : ClientEnd) : ClientEnd :=
  { c with handlers := c.handlers.filter fun _ kept => kept ≠ h }

/-! ## Events -/

/-- An event for a number is written to the socket. -/
def post (object : UInt32) (e : Event) (c : ClientEnd) : ClientEnd :=
  { c with incoming := c.incoming ++ [(object, e)] }

/-- Puts an event into the queue if there is room (`try_send`). -/
def enqueue (entry : UInt32 × Event) (c : ClientEnd) : ClientEnd :=
  if c.waiting.length < Relay.depth then { c with waiting := c.waiting ++ [entry] } else c

/-- Reads the next event off the socket, unless that has come to its end (`client_reader`). -/
def readEvent (c : ClientEnd) : ClientEnd :=
  match c.closed, c.incoming with
  | false, entry :: rest => { c with incoming := rest }.enqueue entry
  | _, _ => c

/-- Reading touches the events only. -/
theorem readEvent_eq (c : ClientEnd) :
    ∃ incoming waiting, c.readEvent = { c with incoming := incoming, waiting := waiting } := by
  unfold readEvent
  split
  · unfold enqueue
    split
    · exact ⟨_, _, rfl⟩
    · exact ⟨_, _, rfl⟩
  · exact ⟨c.incoming, c.waiting, rfl⟩

/-- Reads all events that have been written, as the one who reads what comes after them does. -/
def readEvents (c : ClientEnd) : ClientEnd := Nat.repeat readEvent c.incoming.length c

theorem readEvents_eq (c : ClientEnd) :
    ∃ incoming waiting, c.readEvents = { c with incoming := incoming, waiting := waiting } := by
  have hrepeat (k : Nat) : ∃ incoming waiting, Nat.repeat readEvent k c =
      { c with incoming := incoming, waiting := waiting } := by
    induction k with
    | zero => exact ⟨c.incoming, c.waiting, rfl⟩
    | succ k ih =>
      obtain ⟨incoming, waiting, hk⟩ := ih
      obtain ⟨incoming', waiting', hnext⟩ := readEvent_eq (Nat.repeat readEvent k c)
      exact ⟨incoming', waiting', hnext.trans (by rw [hk])⟩
  exact hrepeat c.incoming.length

/-- Takes the next event out of the queue, unless a handler has broken down (`client_delivery`). -/
def nextEvent (c : ClientEnd) : Option (UInt32 × Event) × ClientEnd :=
  match c.delivering, c.waiting with
  | true, entry :: rest => (some entry, { c with waiting := rest })
  | _, _ => (none, c)

/-- The handler with a number (in `deliver`). -/
def handlerOf (c : ClientEnd) (n : UInt32) : Option Handler := c.handlers.get? n

/-- Whether a handler has a number. -/
def knows (c : ClientEnd) (h : Handler) : Bool := c.handlers.values.contains h

end ClientEnd

end AppletGateway.Socket
