import AppletGateway.Socket.Client

/-!
# Events on their way through the client's end

What is written to a connection is read in that order. What is read goes into the queue if fewer
than 64 events wait there, and is dropped otherwise. What is in the queue is handed out in that
order. So each event is in one place only, and the ones that are dropped are those that found the
queue full.

Results:
* `ClientEnd.passes_post`, `passes_readEvent`, `passes_nextEvent`: what one step does to the events.
* `Passes.trans`: the same for several steps.
-/

namespace AppletGateway.Socket

open Applet (Event)

/-- An event that is read, and whether there is room for it in the queue. -/
structure Reading where
  entry : UInt32 × Event
  room : Bool
  deriving DecidableEq

/-- An event that is handed out, and the handler that has its number. -/
structure Handing where
  entry : UInt32 × Event
  holder : Option Handler
  deriving DecidableEq

/-- The events among some that got into the queue. -/
def roomy (l : List Reading) : List (UInt32 × Event) := (l.filter Reading.room).map Reading.entry

theorem roomy_append (l l' : List Reading) : roomy (l ++ l') = roomy l ++ roomy l' := by
  rw [roomy, List.filter_append, List.map_append]
  rfl

/-- From one state of the client's end to another some events are written, some are read and some
are handed out, and nothing else happens to any event. -/
structure Passes (written : List (UInt32 × Event)) (read : List Reading) (handed : List Handing)
    (c c' : ClientEnd) : Prop where
  incoming : c.incoming ++ written = read.map Reading.entry ++ c'.incoming
  waiting : c.waiting ++ roomy read = handed.map Handing.entry ++ c'.waiting
  bounded : c.waiting.length ≤ Relay.depth → c'.waiting.length ≤ Relay.depth

theorem Passes.none {c c' : ClientEnd} (hincoming : c'.incoming = c.incoming)
    (hwaiting : c'.waiting = c.waiting) : Passes [] [] [] c c' :=
  ⟨(List.append_nil _).trans hincoming.symm, (List.append_nil _).trans hwaiting.symm,
    fun h => hwaiting ▸ h⟩

theorem Passes.trans {w w' : List (UInt32 × Event)} {r r' : List Reading} {d d' : List Handing}
    {c c₁ c' : ClientEnd} (h : Passes w r d c c₁) (h' : Passes w' r' d' c₁ c') :
    Passes (w ++ w') (r ++ r') (d ++ d') c c' where
  incoming := by
    rw [← List.append_assoc, h.incoming, List.append_assoc, h'.incoming, List.map_append,
      List.append_assoc]
  waiting := by
    rw [roomy_append, ← List.append_assoc, h.waiting, List.append_assoc, h'.waiting,
      List.map_append, List.append_assoc]
  bounded hc := h'.bounded (h.bounded hc)

namespace ClientEnd

/-- The event that is read next. -/
def reading (c : ClientEnd) : List Reading :=
  match c.closed, c.incoming with
  | false, entry :: _ => [⟨entry, c.waiting.length < Relay.depth⟩]
  | _, _ => []

/-- The next `k` events that are read. -/
def readings : Nat → ClientEnd → List Reading
  | 0, _ => []
  | k + 1, c => c.readings k ++ (Nat.repeat readEvent k c).reading

/-- The event that is handed out next. -/
def handing (c : ClientEnd) : List Handing :=
  match c.delivering, c.waiting with
  | true, entry :: _ => [⟨entry, c.handlerOf entry.1⟩]
  | _, _ => []

theorem passes_post (m : UInt32) (e : Event) (c : ClientEnd) :
    Passes [(m, e)] [] [] c (c.post m e) :=
  ⟨rfl, List.append_nil _, id⟩

theorem passes_readEvent (c : ClientEnd) : Passes [] c.reading [] c c.readEvent := by
  match hclosed : c.closed, hincoming : c.incoming with
  | false, entry :: rest =>
    have hreading : c.reading = [⟨entry, c.waiting.length < Relay.depth⟩] := by
      simp only [reading, hclosed, hincoming]
    have hread : c.readEvent = { c with incoming := rest }.enqueue entry := by
      simp only [readEvent, hclosed, hincoming]
    rw [hreading, hread]
    by_cases hroom : c.waiting.length < Relay.depth
    · simp only [enqueue, hroom, if_true]
      refine ⟨by simp [hincoming], by simp [roomy], fun _ => ?_⟩
      rw [List.length_append, List.length_singleton]
      exact hroom
    · simp only [enqueue, hroom, if_false]
      exact ⟨by simp [hincoming], by simp [roomy], id⟩
  | false, [] =>
    simp only [reading, readEvent, hclosed, hincoming]
    exact .none rfl rfl
  | true, _ =>
    simp only [reading, readEvent, hclosed]
    exact .none rfl rfl

theorem passes_readings (k : Nat) (c : ClientEnd) :
    Passes [] (c.readings k) [] c (Nat.repeat readEvent k c) := by
  induction k with
  | zero => exact .none rfl rfl
  | succ k ih => exact ih.trans (passes_readEvent _)

theorem passes_nextEvent (c : ClientEnd) : Passes [] [] c.handing c c.nextEvent.2 := by
  match hdelivering : c.delivering, hwaiting : c.waiting with
  | true, entry :: rest =>
    simp only [handing, nextEvent, hdelivering, hwaiting]
    refine ⟨List.append_nil _, by simp [roomy, hwaiting], fun h => ?_⟩
    rw [hwaiting, List.length_cons] at h
    exact Nat.le_of_succ_le h
  | true, [] =>
    simp only [handing, nextEvent, hdelivering, hwaiting]
    exact .none rfl rfl
  | false, _ =>
    simp only [handing, nextEvent, hdelivering]
    exact .none rfl rfl

/-- Giving numbers to handlers leaves the events alone. -/
theorem number_eq (h : Handler) (c : ClientEnd) : ∃ handlers next,
    (c.number h).2 = { c with handlers := handlers, nextNumber := next } := by
  unfold number
  cases numberIn h c.handlers.entries with
  | some n => exact ⟨c.handlers, c.nextNumber, rfl⟩
  | none => exact ⟨_, _, rfl⟩

theorem numbers_eq (hs : List Handler) (c : ClientEnd) : ∃ handlers next,
    (c.numbers hs).2 = { c with handlers := handlers, nextNumber := next } := by
  induction hs generalizing c with
  | nil => exact ⟨c.handlers, c.nextNumber, rfl⟩
  | cons h hs ih =>
    obtain ⟨handlers, next, hfirst⟩ := number_eq h c
    obtain ⟨handlers', next', hrest⟩ := ih (c.number h).2
    exact ⟨handlers', next', hrest.trans (by rw [hfirst])⟩

/-- Handing an event out touches the queue only. -/
theorem nextEvent_eq (c : ClientEnd) :
    ∃ waiting, c.nextEvent.2 = { c with waiting := waiting } := by
  unfold nextEvent
  split
  · exact ⟨_, rfl⟩
  · exact ⟨c.waiting, rfl⟩

end ClientEnd

end AppletGateway.Socket
