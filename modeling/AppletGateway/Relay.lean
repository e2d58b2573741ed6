import AppletGateway.Applet.Message
import AppletGateway.Handler

/-!
# The event relay

Events of the co-processor go through a queue of 64 to the handler that is bound to their app when
their turn comes. Whoever emits never waits: an event that finds the queue full is dropped and
counted. Every call of a handler stands between an attachment to the caller's runtime and the
detachment from it, whatever the handler does; its failures stop here.

A thread of its own takes the messages out of the queue. Its work on one is cut into the steps
between which others can emit events, bind handlers or ask it to stop. The request to stop goes
through the same queue, and whoever asks waits until there is room for it.
-/

namespace AppletGateway

open Applet (Event)

namespace Relay

/-- What goes through the queue. -/
inductive Message
  | deliver (e : Event)
  /-- The thread is to stop. -/
  | stop
  deriving DecidableEq, Inhabited

/-- Where the thread of the relay is. -/
inductive Stage
  /-- It waits for a message. -/
  | waiting
  /-- It has taken an event out of the queue. -/
  | holding (e : Event)
  /-- It has found the handler of the event. -/
  | found (e : Event) (h : Handler)
  /-- It is attached to the caller's runtime, and the handler has the event. -/
  | inside (e : Event) (h : Handler)
  /-- The handler has answered, and that is counted. -/
  | leaving (e : Event) (h : Handler) (x : Handled)
  | stopped
  deriving DecidableEq, Inhabited

/-- How far a shutdown has come. -/
inductive Closing
  | idle
  /-- The request to stop waits for room in the queue. -/
  | asked
  | sent
  deriving DecidableEq, Inhabited

end Relay

/-- The queue of the relay and what became of the events (`NotificationRelay`, `RelayCounters`). -/
structure Relay where
  /-- The messages that wait, oldest first. -/
  queue : List Relay.Message := []
  stage : Relay.Stage := .waiting
  closing : Relay.Closing := .idle
  /-- Whether the caller's runtime can be attached to. -/
  attachable : Bool := true
  delivered : Nat := 0
  /-- Events without a handler when their turn came. -/
  unbound : Nat := 0
  /-- Events that found the queue full. -/
  overflowed : Nat := 0
  /-- Events whose handler failed or could not be attached to. -/
  failed : Nat := 0
  attached : Nat := 0
  detached : Nat := 0
  deriving Inhabited

namespace Relay

/-- The length of the queue (`EVENT_DEPTH`). -/
def depth : Nat := 64

/-- Whether the queue has room for a message. -/
def hasRoom (r : Relay) : Bool := r.queue.length < depth

/-- Puts an event into the queue if there is room (`emit`). -/
def emit (e : Event) (r : Relay) : Relay :=
  if r.hasRoom then { r with queue := r.queue ++ [.deliver e] }
  else { r with overflowed := r.overflowed + 1 }

/-! ## The work of the thread -/

/-- Takes the next message out of the queue (`run`). -/
def take (r : Relay) : Relay :=
  match r.stage, r.queue with
  | .waiting, .deliver e :: rest => { r with queue := rest, stage := .holding e }
  | .waiting, .stop :: rest => { r with queue := rest, stage := .stopped }
  | _, _ => r

/-- Looks up the handler that is bound to the app of the event (the start of `deliver`). -/
def lookUp (callback : String → Option Handler) (r : Relay) : Relay :=
  match r.stage with
  | .holding e =>
    match callback e.app with
    | none => { r with stage := .waiting, unbound := r.unbound + 1 }
    | some h => { r with stage := .found e h }
  | _ => r

/-- Attaches to the caller's runtime, if that is possible, and gives the event to the handler
(`enter`). -/
def enter (r : Relay) : Relay :=
  match r.stage with
  | .found e h =>
    if r.attachable then { r with stage := .inside e h, attached := r.attached + 1 }
    else { r with stage := .waiting, failed := r.failed + 1 }
  | _ => r

/-- Counts how a handler took an event. -/
def count : Handled → Relay → Relay
  | .done, r => { r with delivered := r.delivered + 1 }
  | .failed, r | .crashed, r => { r with failed := r.failed + 1 }

/-- Takes the answer of the handler (the end of `deliver`). -/
def answer (x : Handled) (r : Relay) : Relay :=
  match r.stage with
  | .inside e h => { r.count x with stage := .leaving e h x }
  | _ => r

/-- Detaches from the caller's runtime, whatever the handler has answered (`detach`, when `Attached`
is dropped). -/
def leave (r : Relay) : Relay :=
  match r.stage with
  | .leaving .. => { r with stage := .waiting, detached := r.detached + 1 }
  | _ => r

/-! ## The end -/

/-- Asks the thread to stop; only the first time anything is done. -/
def askStop (r : Relay) : Relay :=
  if r.closing = .idle then { r with closing := .asked } else r

/-- Puts the request to stop into the queue once there is room. -/
def pushStop (r : Relay) : Relay :=
  if r.closing = .asked ∧ r.hasRoom then
    { r with queue := r.queue ++ [.stop], closing := .sent }
  else r

/-! ## All of it at once -/

section

variable {σ : Type} (callback : String → Option Handler)
  (invoke : Handler → Event → StateM σ Handled)

/-- Does what the message whose turn it is asks for, if there is one. An event goes to the handler
bound to its app, if there is one and the runtime can be attached to. -/
def deliverNext (r : Relay) : StateM σ Relay :=
  let r := (r.take.lookUp callback).enter
  match r.stage with
  | .inside e h => do return (r.answer (← invoke h e)).leave
  | _ => return r

/-- Goes through at most `limit` messages. -/
def deliverUpTo : (limit : Nat) → Relay → StateM σ Relay
  | 0, r => return r
  | limit + 1, r => do deliverUpTo limit (← deliverNext callback invoke r)

/-- Goes through all messages that wait. -/
def deliverAll (r : Relay) : StateM σ Relay := deliverUpTo callback invoke r.queue.length r

/-- Delivers what waits and stops the thread (`shutdown`). -/
def shutdown (r : Relay) : StateM σ Relay := do
  let r ← deliverAll callback invoke r
  deliverAll callback invoke r.askStop.pushStop

end

end Relay

end AppletGateway
