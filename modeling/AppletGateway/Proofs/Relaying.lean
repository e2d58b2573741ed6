import AppletGateway.Proofs.Registrations
import AppletGateway.Relay

/-!
# What becomes of events

Events are emitted, handlers are bound and unbound, the caller's runtime comes and goes and the
relay is asked to stop, all of it between any two steps of the relay's thread. What can be seen of
the thread are the turns of the events: the callback found for one, attaching, the call of the
handler with its answer, and detaching.

The turns that are over and the one going on account for all that was taken out of the queue, in the
order in which it came in; that is the invariant `Told`, which every step keeps.

Results:
* `Relay.Told.play`, `Relay.told_played`: every step, and so every run, keeps account.
* `Relay.reaches_deliverNext`, `Relay.reaches_shutdown`: what is done in one go is a run of the
  steps.
* `Relay.between_deliverNext`: going through one message ends between two turns.
* `Relay.stage_finishing`, `Relay.played_take_finishing`: no event stays in hand, and the turn of an
  event goes by the callback and by the runtime at that time.
* `Relay.events_accounted`: what has become of the events, and who was called for them.
-/

namespace AppletGateway.Relay

open Applet (Event)

/-! ## The scene -/

/-- What can be seen of the thread of the relay. -/
inductive Sight
  /-- The turn of an event has come, and the callback of its app is what it is then. -/
  | turn (e : Event) (callback : Option Handler)
  /-- It tries to attach to the caller's runtime, which lets it or does not. -/
  | attach (succeeded : Bool)
  | call (h : Handler) (e : Event)
  | answer (x : Handled)
  | detach
  deriving DecidableEq

/-- The relay and the registry, and what was seen so far, oldest first. -/
structure Scene where
  relay : Relay := {}
  registry : Registry := {}
  emitted : List Event := []
  /-- The events emitted that were not counted as overflowed. -/
  accepted : List Event := []
  sights : List Sight := []

/-- A step of anyone. -/
inductive Act
  | emit (e : Event)
  | registry (c : Registry.Call)
  /-- From now on attaching to the caller's runtime fails, or it succeeds. -/
  | runtime (attachable : Bool)
  | take
  | lookUp
  | enter
  /-- The handler at work answers: it is done, reports an error or breaks down. -/
  | answer (x : Handled)
  | leave
  | askStop
  | pushStop

/-- The call of a handler that the thread is in. -/
@[simp]
def Stage.called : Stage → List Sight
  | inside e h => [.call h e]
  | _ => []

/-- What is seen of a step of the thread: the callback of the app and whether the runtime can be
attached to are what they are when the step is taken. -/
def sightsOf (s : Scene) : Act → List Sight
  | .lookUp =>
    match s.relay.stage with
    | .holding e => [.turn e (s.registry.callbackFor e.app)]
    | _ => []
  | .enter =>
    match s.relay.stage with
    | .found _ _ => .attach s.relay.attachable :: s.relay.enter.stage.called
    | _ => []
  | .answer x =>
    match s.relay.stage with
    | .inside _ _ => [.answer x]
    | _ => []
  | .leave =>
    match s.relay.stage with
    | .leaving .. => [.detach]
    | _ => []
  | _ => []

/-- The relay after a step. -/
def Act.apply (s : Scene) : Act → Relay
  | emit e => s.relay.emit e
  | registry _ => s.relay
  | runtime attachable => { s.relay with attachable := attachable }
  | take => s.relay.take
  | lookUp => s.relay.lookUp s.registry.callbackFor
  | enter => s.relay.enter
  | answer x => s.relay.answer x
  | leave => s.relay.leave
  | askStop => s.relay.askStop
  | pushStop => s.relay.pushStop

/-- The scene after a step. A step that cannot be taken changes nothing. -/
def Act.play (s : Scene) (a : Act) : Scene where
  relay := a.apply s
  registry :=
    match a with
    | registry c => c.apply s.registry
    | _ => s.registry
  emitted :=
    match a with
    | emit e => s.emitted ++ [e]
    | _ => s.emitted
  accepted :=
    match a with
    | emit e => if (s.relay.emit e).overflowed = s.relay.overflowed then s.accepted ++ [e]
      else s.accepted
    | _ => s.accepted
  sights := s.sights ++ sightsOf s a

/-- The scene after some steps, the first of them first. -/
def played (acts : List Act) (s : Scene) : Scene := acts.foldl Act.play s

/-! ## Turns -/

/-- A turn that is over. -/
inductive Turn
  /-- The app of the event had no callback. -/
  | unbound (e : Event)
  /-- The callback could not be called, for want of a runtime. -/
  | refused (e : Event) (h : Handler)
  | handled (e : Event) (h : Handler) (x : Handled)
  deriving DecidableEq

/-- The counters in which an event can end up once it has been taken out of the queue. -/
inductive Fate
  | delivered
  | unbound
  | failed
  deriving DecidableEq

@[simp]
def Turn.event : Turn → Event
  | unbound e | refused e _ | handled e _ _ => e

/-- What is seen of a turn. -/
@[simp]
def Turn.sights : Turn → List Sight
  | unbound e => [.turn e none]
  | refused e h => [.turn e (some h), .attach false]
  | handled e h x => [.turn e (some h), .attach true, .call h e, .answer x, .detach]

/-- Where the event of a turn is counted. -/
@[simp]
def Turn.fate : Turn → Fate
  | unbound _ => .unbound
  | refused _ _ => .failed
  | handled _ _ .done => .delivered
  | handled _ _ .failed | handled _ _ .crashed => .failed

/-- Whether the thread was attached in a turn. -/
@[simp]
def Turn.entered : Turn → Bool
  | unbound _ | refused _ _ => false
  | handled .. => true

/-- The events in the queue. -/
def queued (r : Relay) : List Event :=
  r.queue.filterMap fun
    | .deliver e => some e
    | .stop => none

/-- What was seen of the turn going on. -/
@[simp]
def Stage.sights : Stage → List Sight
  | waiting | holding _ | stopped => []
  | found e h => [.turn e (some h)]
  | inside e h => [.turn e (some h), .attach true, .call h e]
  | leaving e h x => [.turn e (some h), .attach true, .call h e, .answer x]

/-- The event that was taken out of the queue and is still to be counted. -/
@[simp]
def Stage.inHand : Stage → List Event
  | waiting | stopped | leaving .. => []
  | holding e | found e _ | inside e _ => [e]

/-- The turn going on, if its event is counted already. -/
@[simp]
def Stage.counted : Stage → List Turn
  | leaving e h x => [.handled e h x]
  | _ => []

/-- Whether the thread is attached to the caller's runtime. -/
@[simp]
def Stage.isAttached : Stage → Bool
  | inside .. | leaving .. => true
  | _ => false

/-! ## The invariant -/

/-- What was seen of the relay are the turns `ts`, and after them the one going on; they account for
the events, which come in the order in which they were emitted. -/
structure Told (s : Scene) (ts : List Turn) : Prop where
  room : s.relay.queue.length ≤ depth
  sights : s.sights = ts.flatMap Turn.sights ++ s.relay.stage.sights
  accepted : s.accepted = (ts ++ s.relay.stage.counted).map Turn.event ++ s.relay.stage.inHand ++
    s.relay.queued
  emitted : s.emitted.length = s.accepted.length + s.relay.overflowed
  order : s.accepted.Sublist s.emitted
  delivered : s.relay.delivered = (ts ++ s.relay.stage.counted).countP (·.fate = .delivered)
  unbound : s.relay.unbound = (ts ++ s.relay.stage.counted).countP (·.fate = .unbound)
  failed : s.relay.failed = (ts ++ s.relay.stage.counted).countP (·.fate = .failed)
  attached : s.relay.attached = ts.countP Turn.entered + s.relay.stage.isAttached.toNat
  detached : s.relay.detached = ts.countP Turn.entered

variable {s : Scene} {ts : List Turn}

theorem told_new : Told {} [] :=
  ⟨Nat.zero_le _, rfl, rfl, rfl, .slnil, rfl, rfl, rfl, rfl, rfl⟩

/-- An event is counted as overflowed exactly if the queue is full. -/
theorem overflowed_emit (e : Event) (r : Relay) :
    (r.emit e).overflowed = r.overflowed + if r.queue.length < depth then 0 else 1 := by
  by_cases hroom : r.queue.length < depth <;> simp [emit, hasRoom, hroom]

theorem Told.emit (h : Told s ts) (e : Event) : Told ((Act.emit e).play s) ts := by
  have htotal := h.emitted
  by_cases hroom : s.relay.queue.length < depth
  · have hplay : (Act.emit e).play s = { s with
        relay := { s.relay with queue := s.relay.queue ++ [.deliver e] }
        emitted := s.emitted ++ [e]
        accepted := s.accepted ++ [e] } := by
      simp [Act.play, Act.apply, sightsOf, Relay.emit, hasRoom, hroom]
    rw [hplay]
    exact
      { h with
        room := by simpa using Nat.succ_le_of_lt hroom
        accepted := by simp [h.accepted, queued]
        emitted := by simp; omega
        order := h.order.append (.refl [e]) }
  · have hplay : (Act.emit e).play s = { s with
        relay := { s.relay with overflowed := s.relay.overflowed + 1 }
        emitted := s.emitted ++ [e] } := by
      simp [Act.play, Act.apply, sightsOf, Relay.emit, hasRoom, hroom]
    rw [hplay]
    exact
      { h with
        emitted := by simp; omega
        order := h.order.trans (List.sublist_append_left _ _) }

/-- What is of no concern to the events changes nothing. -/
theorem Told.runtime (h : Told s ts) (attachable : Bool) :
    Told ((Act.runtime attachable).play s) ts := by
  have hplay : (Act.runtime attachable).play s =
      { s with relay := { s.relay with attachable := attachable } } := by
    simp [Act.play, Act.apply, sightsOf]
  rw [hplay]
  exact { h with }

theorem Told.registry (h : Told s ts) (c : Registry.Call) :
    Told ((Act.registry c).play s) ts := by
  have hplay : (Act.registry c).play s = { s with registry := c.apply s.registry } := by
    simp [Act.play, Act.apply, sightsOf]
  rw [hplay]
  exact { h with }

theorem Told.askStop (h : Told s ts) : Told (Act.askStop.play s) ts := by
  have hplay : Act.askStop.play s = { s with relay := s.relay.askStop } := by
    simp [Act.play, Act.apply, sightsOf]
  rw [hplay, Relay.askStop]
  split
  · exact { h with }
  · exact h

theorem Told.pushStop (h : Told s ts) : Told (Act.pushStop.play s) ts := by
  have hplay : Act.pushStop.play s = { s with relay := s.relay.pushStop } := by
    simp [Act.play, Act.apply, sightsOf]
  rw [hplay, Relay.pushStop]
  split
  · rename_i hroom
    have hroom : s.relay.queue.length < depth := of_decide_eq_true hroom.2
    exact
      { h with
        room := by simpa using Nat.succ_le_of_lt hroom
        accepted := by simp [h.accepted, queued] }
  · exact h

/-! ## Steps of the thread -/

/-- From `r` to `r'` the thread has let `seen` be seen and ended the turns `ended`: what it has
taken on before is what it has ended since and what it is about. -/
structure Proceeds (r r' : Relay) (seen : List Sight) (ended : List Turn) : Prop where
  room : r'.queue.length ≤ r.queue.length
  sights : r.stage.sights ++ seen = ended.flatMap Turn.sights ++ r'.stage.sights
  events : r.stage.counted.map Turn.event ++ r.stage.inHand ++ r.queued =
    (ended ++ r'.stage.counted).map Turn.event ++ r'.stage.inHand ++ r'.queued
  overflowed : r'.overflowed = r.overflowed
  delivered : r'.delivered + r.stage.counted.countP (·.fate = .delivered) =
    r.delivered + (ended ++ r'.stage.counted).countP (·.fate = .delivered)
  unbound : r'.unbound + r.stage.counted.countP (·.fate = .unbound) =
    r.unbound + (ended ++ r'.stage.counted).countP (·.fate = .unbound)
  failed : r'.failed + r.stage.counted.countP (·.fate = .failed) =
    r.failed + (ended ++ r'.stage.counted).countP (·.fate = .failed)
  attached : r'.attached + r.stage.isAttached.toNat =
    r.attached + ended.countP Turn.entered + r'.stage.isAttached.toNat
  detached : r'.detached = r.detached + ended.countP Turn.entered

theorem Proceeds.refl (r : Relay) : Proceeds r r [] [] := by
  constructor <;> simp

theorem Told.proceed (h : Told s ts) {r' : Relay} {seen : List Sight} {ended : List Turn}
    (hp : Proceeds s.relay r' seen ended) :
    Told { s with relay := r', sights := s.sights ++ seen } (ts ++ ended) where
  room := Nat.le_trans hp.room h.room
  sights := by
    rw [h.sights, List.append_assoc, hp.sights]
    simp
  accepted := by
    have := hp.events
    rw [h.accepted]
    simp only [List.map_append, List.append_assoc] at this ⊢
    rw [this]
  emitted := by
    rw [hp.overflowed]
    exact h.emitted
  order := h.order
  delivered := by
    have := hp.delivered
    have := h.delivered
    simp only [List.countP_append] at *
    omega
  unbound := by
    have := hp.unbound
    have := h.unbound
    simp only [List.countP_append] at *
    omega
  failed := by
    have := hp.failed
    have := h.failed
    simp only [List.countP_append] at *
    omega
  attached := by
    have := hp.attached
    have := h.attached
    simp only [List.countP_append]
    omega
  detached := by
    have := hp.detached
    have := h.detached
    simp only [List.countP_append]
    omega

theorem proceeds_take (r : Relay) : Proceeds r r.take [] [] := by
  unfold take
  split
  · rename_i hstage hqueue
    constructor <;> simp [hstage, hqueue, queued]
  · rename_i hstage hqueue
    constructor <;> simp [hstage, hqueue, queued]
  · exact .refl r

theorem proceeds_lookUp (s : Scene) :
    ∃ ended, Proceeds s.relay (Act.lookUp.apply s) (sightsOf s .lookUp) ended := by
  simp only [Act.apply, lookUp, sightsOf]
  cases hstage : s.relay.stage with
  | holding e =>
    cases hcallback : s.registry.callbackFor e.app with
    | none =>
      refine ⟨[.unbound e], ?_⟩
      constructor <;> simp [hstage, hcallback, queued]
    | some h =>
      refine ⟨[], ?_⟩
      constructor <;> simp [hstage, hcallback, queued]
  | _ => exact ⟨[], .refl _⟩

theorem proceeds_enter (s : Scene) :
    ∃ ended, Proceeds s.relay (Act.enter.apply s) (sightsOf s .enter) ended := by
  simp only [Act.apply, enter, sightsOf]
  cases hstage : s.relay.stage with
  | found e h =>
    cases hattach : s.relay.attachable with
    | false =>
      refine ⟨[.refused e h], ?_⟩
      constructor <;> simp [hstage, queued]
    | true =>
      refine ⟨[], ?_⟩
      constructor <;> simp [hstage, queued]
  | _ => exact ⟨[], .refl _⟩

theorem proceeds_answer (s : Scene) (x : Handled) :
    Proceeds s.relay ((Act.answer x).apply s) (sightsOf s (.answer x)) [] := by
  simp only [Act.apply, answer, sightsOf]
  cases hstage : s.relay.stage with
  | inside e h =>
    cases x <;> constructor <;> simp [hstage, queued, count]
  | _ => exact .refl _

theorem proceeds_leave (s : Scene) :
    ∃ ended, Proceeds s.relay (Act.leave.apply s) (sightsOf s .leave) ended := by
  simp only [Act.apply, leave, sightsOf]
  cases hstage : s.relay.stage with
  | leaving e h x =>
    refine ⟨[.handled e h x], ?_⟩
    constructor <;> simp [hstage, queued]
  | _ => exact ⟨[], .refl _⟩

/-! ## Runs -/

/-- Every step keeps account of the events. -/
theorem Told.play (h : Told s ts) (a : Act) : ∃ ts', Told (a.play s) ts' := by
  cases a with
  | emit e => exact ⟨ts, h.emit e⟩
  | registry c => exact ⟨ts, h.registry c⟩
  | runtime attachable => exact ⟨ts, h.runtime attachable⟩
  | take => exact ⟨_, h.proceed (proceeds_take s.relay)⟩
  | lookUp => exact (proceeds_lookUp s).elim fun _ hp => ⟨_, h.proceed hp⟩
  | enter => exact (proceeds_enter s).elim fun _ hp => ⟨_, h.proceed hp⟩
  | answer x => exact ⟨_, h.proceed (proceeds_answer s x)⟩
  | leave => exact (proceeds_leave s).elim fun _ hp => ⟨_, h.proceed hp⟩
  | askStop => exact ⟨ts, h.askStop⟩
  | pushStop => exact ⟨ts, h.pushStop⟩

theorem told_played (acts : List Act) (h : Told s ts) : ∃ ts', Told (played acts s) ts' := by
  induction acts generalizing s ts with
  | nil => exact ⟨ts, h⟩
  | cons a acts ih =>
    obtain ⟨ts', h'⟩ := h.play a
    exact ih h'

/-! ## The thread in one go -/

/-- The relay of the scene can become `r` without anything being emitted or bound. -/
def Reaches (s : Scene) (r : Relay) : Prop :=
  ∃ acts, (played acts s).relay = r ∧ (played acts s).registry = s.registry ∧
    (played acts s).emitted = s.emitted

theorem Reaches.refl (s : Scene) : Reaches s s.relay := ⟨[], rfl, rfl, rfl⟩

/-- From wherever the relay has come to with nothing else changed, it can go on. -/
theorem Reaches.trans {r r' : Relay} (h : Reaches s r)
    (h' : ∀ s' : Scene, s'.relay = r → s'.registry = s.registry → Reaches s' r') :
    Reaches s r' := by
  obtain ⟨acts, hrelay, hregistry, hemitted⟩ := h
  obtain ⟨acts', hrelay', hregistry', hemitted'⟩ := h' _ hrelay hregistry
  refine ⟨acts ++ acts', ?_⟩
  rw [played, List.foldl_append]
  exact ⟨hrelay', hregistry'.trans hregistry, hemitted'.trans hemitted⟩

section

variable {σ : Type} (invoke : Handler → Event → StateM σ Handled)

/-- Going through one message is a run of the thread's steps. -/
theorem reaches_deliverNext (s : Scene) (x : σ) :
    Reaches s ((deliverNext s.registry.callbackFor invoke s.relay).run x).1 := by
  have hfirst : Reaches s (s.relay.take.lookUp s.registry.callbackFor).enter :=
    ⟨[.take, .lookUp, .enter], rfl, rfl, rfl⟩
  unfold deliverNext
  dsimp only
  split
  · rename_i e h _
    refine hfirst.trans fun s' hrelay hregistry => ?_
    rw [← hrelay]
    exact ⟨[.answer ((invoke h e).run x).1, .leave], rfl, rfl, rfl⟩
  · exact hfirst

/-- Going through one message ends between two turns if it begins there. -/
theorem between_deliverNext (callback : String → Option Handler) (r : Relay)
    (h : r.stage = .waiting ∨ r.stage = .stopped) (x : σ) :
    ((deliverNext callback invoke r).run x).1.stage = .waiting ∨
      ((deliverNext callback invoke r).run x).1.stage = .stopped := by
  have htaken : r.take.stage = .waiting ∨ r.take.stage = .stopped ∨
      ∃ e, r.take.stage = .holding e := by
    unfold take
    split
    · exact .inr (.inr ⟨_, rfl⟩)
    · exact .inr (.inl rfl)
    · exact h.imp id .inl
  have hentered : (r.take.lookUp callback).enter.stage = .waiting ∨
      (r.take.lookUp callback).enter.stage = .stopped ∨
      ∃ e handler, (r.take.lookUp callback).enter.stage = .inside e handler := by
    rcases htaken with hstage | hstage | ⟨e, hstage⟩
    · exact .inl (by simp [lookUp, enter, hstage])
    · exact .inr (.inl (by simp [lookUp, enter, hstage]))
    · cases hcallback : callback e.app with
      | none => exact .inl (by simp [lookUp, enter, hstage, hcallback])
      | some handler =>
        cases hattach : r.take.attachable with
        | false => exact .inl (by simp [lookUp, enter, hstage, hcallback, hattach])
        | true =>
          exact .inr (.inr ⟨e, handler, by simp [lookUp, enter, hstage, hcallback, hattach]⟩)
  unfold deliverNext
  dsimp only
  generalize (r.take.lookUp callback).enter = r' at hentered
  split
  · rename_i e handler hstage
    have hdone (y : Handled) : (r'.answer y).leave.stage = .waiting := by
      simp [leave, answer, hstage]
    exact .inl (hdone _)
  · rename_i hnot
    rcases hentered with hstage | hstage | ⟨e, handler, hstage⟩
    · exact .inl hstage
    · exact .inr hstage
    · exact absurd hstage (hnot e handler)

theorem reaches_deliverUpTo (limit : Nat) (s : Scene) (x : σ) :
    Reaches s ((deliverUpTo s.registry.callbackFor invoke limit s.relay).run x).1 := by
  induction limit generalizing s x with
  | zero => exact .refl s
  | succ limit ih =>
    refine (reaches_deliverNext invoke s x).trans fun s' hrelay hregistry => ?_
    have := ih s' ((deliverNext s.registry.callbackFor invoke s.relay).run x).2
    rw [hrelay, hregistry] at this
    exact this

/-- So is delivering what waits and stopping the thread. -/
theorem reaches_shutdown (s : Scene) (x : σ) :
    Reaches s ((shutdown s.registry.callbackFor invoke s.relay).run x).1 := by
  have hdrained := reaches_deliverUpTo invoke s.relay.queue.length s x
  refine hdrained.trans fun s' hrelay hregistry => ?_
  have hasked : Reaches s' s'.relay.askStop.pushStop := ⟨[.askStop, .pushStop], rfl, rfl, rfl⟩
  refine hasked.trans fun s'' hrelay' hregistry' => ?_
  have := reaches_deliverUpTo invoke s''.relay.queue.length s''
    ((deliverAll s.registry.callbackFor invoke s.relay).run x).2
  rw [hrelay', hregistry', hregistry, hrelay] at this
  exact this

end

/-! ## What was seen -/

/-- The calls of handlers. -/
def calls (l : List Sight) : List (Handler × Event) :=
  l.filterMap fun
    | .call h e => some (h, e)
    | _ => none

/-- The calls to be made: one for every turn in which there was a callback and the thread could
attach. -/
def due : List Sight → List (Handler × Event)
  | .turn e (some h) :: .attach true :: l => (h, e) :: due l
  | _ :: l => due l
  | [] => []

/-- The events that a handler was called for. -/
def seenBy (h : Handler) (l : List Sight) : List Event :=
  (calls l).filterMap fun c => if c.1 = h then some c.2 else none

/-- Whether the thread is attached after what was seen, if it was attached or not before. There is
no answer if a turn begins while it is attached, if it attaches twice, or if it calls a handler or
detaches while it is not attached. -/
def afterwards : Bool → List Sight → Option Bool
  | now, [] => some now
  | false, .turn _ _ :: l => afterwards false l
  | false, .attach succeeded :: l => afterwards succeeded l
  | true, .call _ _ :: l | true, .answer _ :: l => afterwards true l
  | true, .detach :: l => afterwards false l
  | _, _ :: _ => none

/-- Exactly the calls that are due were made. -/
theorem calls_eq_due (ts : List Turn) (stage : Stage) :
    calls (ts.flatMap Turn.sights ++ stage.sights) =
      due (ts.flatMap Turn.sights ++ stage.sights) := by
  induction ts with
  | nil => cases stage <;> rfl
  | cons t ts ih =>
    rw [List.flatMap_cons, List.append_assoc]
    cases t <;> simpa [calls, due] using ih

/-- Handlers are called for events in the order in which these were taken out of the queue. -/
theorem seenBy_sublist (h : Handler) (ts : List Turn) (stage : Stage) :
    (seenBy h (ts.flatMap Turn.sights ++ stage.sights)).Sublist
      ((ts ++ stage.counted).map Turn.event ++ stage.inHand) := by
  induction ts with
  | nil =>
    cases stage with
    | inside e h' => by_cases hh : h' = h <;> simp [seenBy, calls, hh]
    | leaving e h' _ => by_cases hh : h' = h <;> simp [seenBy, calls, hh]
    | _ => exact List.nil_sublist _
  | cons t ts ih =>
    cases t with
    | unbound e => simpa [seenBy, calls] using ih.cons e
    | refused e h' => simpa [seenBy, calls] using ih.cons e
    | handled e h' x =>
      by_cases hh : h' = h
      · simpa [seenBy, calls, hh] using ih.cons_cons e
      · simpa [seenBy, calls, hh] using ih.cons e

theorem afterwards_turns (ts : List Turn) (stage : Stage) :
    afterwards false (ts.flatMap Turn.sights ++ stage.sights) = some stage.isAttached := by
  induction ts with
  | nil => cases stage <;> rfl
  | cons t ts ih => cases t <;> simpa [afterwards] using ih

theorem count_attach (ts : List Turn) (stage : Stage) :
    (ts.flatMap Turn.sights ++ stage.sights).count (.attach true) =
      ts.countP Turn.entered + stage.isAttached.toNat := by
  induction ts with
  | nil => cases stage <;> rfl
  | cons t ts ih =>
    rw [List.flatMap_cons, List.append_assoc, List.count_append, ih, List.countP_cons]
    cases t with
    | unbound | refused => simp
    | handled =>
      simp
      omega

theorem count_detach (ts : List Turn) (stage : Stage) :
    (ts.flatMap Turn.sights ++ stage.sights).count .detach = ts.countP Turn.entered := by
  induction ts with
  | nil => cases stage <;> rfl
  | cons t ts ih =>
    rw [List.flatMap_cons, List.append_assoc, List.count_append, ih, List.countP_cons]
    cases t with
    | unbound | refused => simp
    | handled =>
      simp
      omega

/-- Every turn is counted in one place. -/
theorem length_eq_fates (ts : List Turn) : ts.length = ts.countP (·.fate = .delivered) +
    ts.countP (·.fate = .unbound) + ts.countP (·.fate = .failed) := by
  induction ts with
  | nil => rfl
  | cons t ts ih =>
    simp only [List.length_cons, List.countP_cons, ih]
    cases t.fate <;> simp <;> omega

/-- The turn of an event if it comes now and the handler, should one be called, answers `x`. -/
def Scene.turnOf (s : Scene) (e : Event) (x : Handled) : Turn :=
  match s.registry.callbackFor e.app with
  | none => .unbound e
  | some h => if s.relay.attachable then .handled e h x else .refused e h

/-- The steps of the thread that end a turn. -/
def finishing (x : Handled) : List Act := [.lookUp, .enter, .answer x, .leave]

/-- Wherever the thread is, these steps end the turn. -/
theorem stage_finishing (x : Handled) (s : Scene) :
    (played (finishing x) s).relay.stage = .waiting ∨
      (played (finishing x) s).relay.stage = .stopped := by
  show (((s.relay.lookUp s.registry.callbackFor).enter.answer x).leave).stage = .waiting ∨
    (((s.relay.lookUp s.registry.callbackFor).enter.answer x).leave).stage = .stopped
  cases hstage : s.relay.stage with
  | holding e =>
    cases hcallback : s.registry.callbackFor e.app with
    | none => simp [lookUp, enter, answer, leave, hstage, hcallback]
    | some h =>
      cases hattach : s.relay.attachable <;>
        simp [lookUp, enter, answer, leave, hstage, hcallback, hattach]
  | found e h =>
    cases hattach : s.relay.attachable <;>
      simp [lookUp, enter, answer, leave, hstage, hattach]
  | _ => simp [lookUp, enter, answer, leave, hstage]

/-- An event in hand has its turn if nobody comes between. -/
theorem played_finishing {s : Scene} {e : Event} (x : Handled)
    (hstage : s.relay.stage = .holding e) :
    (played (finishing x) s).relay.stage = .waiting ∧
      (played (finishing x) s).relay.queue = s.relay.queue ∧
      (played (finishing x) s).sights = s.sights ++ (s.turnOf e x).sights := by
  cases hcallback : s.registry.callbackFor e.app with
  | none =>
    simp [played, finishing, Act.play, Act.apply, sightsOf, Scene.turnOf, lookUp, enter, answer,
      leave, hstage, hcallback]
  | some h =>
    cases hattach : s.relay.attachable <;> cases x <;>
      simp [played, finishing, Act.play, Act.apply, sightsOf, Scene.turnOf, lookUp, enter, answer,
        leave, count, hstage, hcallback, hattach]

/-- So has the next event in the queue. -/
theorem played_take_finishing {s : Scene} {e : Event} {rest : List Message} (x : Handled)
    (hstage : s.relay.stage = .waiting) (hqueue : s.relay.queue = .deliver e :: rest) :
    (played (.take :: finishing x) s).relay.stage = .waiting ∧
      (played (.take :: finishing x) s).relay.queue = rest ∧
      (played (.take :: finishing x) s).sights = s.sights ++ (s.turnOf e x).sights := by
  have htake : Act.take.play s = { s with
      relay := { s.relay with queue := rest, stage := .holding e } } := by
    simp [Act.play, Act.apply, sightsOf, take, hstage, hqueue]
  have hstart : played (.take :: finishing x) s = played (finishing x) { s with
      relay := { s.relay with queue := rest, stage := .holding e } } :=
    congrArg (played (finishing x)) htake
  rw [hstart]
  exact played_finishing x rfl

/-- What has become of the events, and what was done for them. -/
structure Accounted (s : Scene) : Prop where
  /-- What was seen are turns. Their events, the one in hand and those in the queue are the events
  that did not overflow, and each turn is counted once, where it belongs. -/
  told : ∃ ts, Told s ts
  /-- An event overflows exactly if the queue is full. -/
  overflow : ∀ e, (s.relay.emit e).overflowed =
    s.relay.overflowed + if s.relay.queue.length = depth then 1 else 0
  total : s.emitted.length = s.relay.overflowed + s.relay.queued.length +
    s.relay.stage.inHand.length + s.relay.delivered + s.relay.unbound + s.relay.failed
  /-- Between two turns no event is on the way from the queue to its counter. -/
  totalBetween : s.relay.stage = .waiting ∨ s.relay.stage = .stopped → s.emitted.length =
    s.relay.overflowed + s.relay.queued.length + s.relay.delivered + s.relay.unbound +
      s.relay.failed
  /-- No event stays in hand: the next steps of the thread end the turn. -/
  finishes : ∀ x, (played (finishing x) s).relay.stage = .waiting ∨
    (played (finishing x) s).relay.stage = .stopped
  /-- The turn of an event goes by the callback and by the runtime at that time. -/
  turn : ∀ e rest x, s.relay.stage = .waiting → s.relay.queue = .deliver e :: rest →
    (played (.take :: finishing x) s).relay.stage = .waiting ∧
      (played (.take :: finishing x) s).relay.queue = rest ∧
      (played (.take :: finishing x) s).sights = s.sights ++ (s.turnOf e x).sights
  /-- A handler is called for an event exactly if it was the callback of the app when the turn of
  the event came, and attaching succeeded. -/
  called : calls s.sights = due s.sights
  seenInOrder : ∀ h, (seenBy h s.sights).Sublist s.emitted
  /-- Whoever attached has detached once before the next turn. -/
  paired : afterwards false s.sights = some s.relay.stage.isAttached
  attached : s.relay.attached = s.sights.count (.attach true)
  detached : s.relay.detached = s.sights.count .detach

theorem Told.accounted (h : Told s ts) : Accounted s := by
  have htotal : s.emitted.length = s.relay.overflowed + s.relay.queued.length +
      s.relay.stage.inHand.length + s.relay.delivered + s.relay.unbound + s.relay.failed := by
    have hfates := length_eq_fates (ts ++ s.relay.stage.counted)
    rw [h.emitted, h.accepted, h.delivered, h.unbound, h.failed]
    simp only [List.length_append, List.length_map] at hfates ⊢
    omega
  have hroom := h.room
  exact
    { told := ⟨ts, h⟩
      overflow := fun e => by
        rw [overflowed_emit]
        split <;> split <;> omega
      finishes := fun x => stage_finishing x s
      turn := fun e rest x hstage hqueue => played_take_finishing x hstage hqueue
      total := htotal
      totalBetween := by
        rintro (hstage | hstage) <;> simpa [hstage] using htotal
      called := by
        rw [h.sights]
        exact calls_eq_due ts _
      seenInOrder := fun handler => by
        have htaken := List.sublist_append_left ((ts ++ s.relay.stage.counted).map Turn.event ++
          s.relay.stage.inHand) s.relay.queued
        rw [h.sights]
        rw [← h.accepted] at htaken
        exact (seenBy_sublist handler ts _).trans (htaken.trans h.order)
      paired := by
        rw [h.sights]
        exact afterwards_turns ts _
      attached := by
        rw [h.sights, count_attach]
        exact h.attached
      detached := by
        rw [h.sights, count_detach]
        exact h.detached }

/-- Whoever emits events, binds and unbinds handlers, takes the runtime away or asks the relay to
stop, and whatever the handlers answer: all events are accounted for. -/
theorem events_accounted (acts : List Act) : Accounted (played acts {}) := by
  obtain ⟨ts, h⟩ := told_played acts told_new
  exact h.accounted

end AppletGateway.Relay
