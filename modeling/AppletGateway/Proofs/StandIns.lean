import AppletGateway.Device.Channel
import AppletGateway.Proofs.Arrivals
import AppletGateway.Proofs.ClientEvents

/-!
# Handlers keep their identity on a connection

A handler does not cross a socket. The client gives it a number, the gateway's end makes a stand-in
for the number, and an event that the stand-in takes goes back as that number. The client keeps a
handler and its number until it is released, and gives no number twice as long as it has not run out
of them. The gateway's end keeps a stand-in as long as it is held, and forgets it afterwards. So the
two tables need not agree, and yet no handler is ever taken for another: a number says which handler
it was given to for good.

A run on a connection consists of calls, of releases, of events for stand-ins, of the events that
the client reads and hands out, in any order, and of whatever happens elsewhere meanwhile, which
leaves the handlers of the client, its events and the stand-ins alone.

Results:
* `ClientEnd.Kept`: every number in use was given to the handler that has it.
* `Gateway.Joined.apply`: what a step of a run does at both ends.
* `Gateway.identity_kept`: a handler comes as the same stand-in as long as it is not released and
  the stand-in is held; two handlers never come as the same stand-in; and an event for a stand-in is
  handed out to its handler or to nobody, unless it finds the queue of the client full.
* `Gateway.full_queue_drops`: the 65th of as many events that the client reads at once is lost.
-/

namespace AppletGateway

open Socket (ClientEnd ServerEnd Message)

/-! ## The client's end -/

namespace Socket.ClientEnd

variable {c : ClientEnd} {h k : Handler} {log : List Handler} {m : UInt32}

/-- The handlers among some that get a new number, in order. -/
def issues : List Handler → ClientEnd → List Handler
  | [], _ => []
  | h :: hs, c => (if c.knows h then [] else [h]) ++ issues hs (c.number h).2

/-- Every number in use was given to the handler that has it, and no handler has two. The numbers
were given one after another to the handlers in `log`. -/
structure Kept (log : List Handler) (c : ClientEnd) : Prop where
  oneNumber : c.OneNumber
  given : ∀ m h, c.handlers.get? m = some h → ∃ i, m.toNat = i + 1 ∧ log[i]? = some h
  next : c.nextNumber = UInt32.ofNat (log.length + 1)

theorem Kept.le_of_get? (hc : c.Kept log) (hm : c.handlers.get? m = some h) :
    m.toNat ≤ log.length := by
  obtain ⟨i, hi, hlog⟩ := hc.given m h hm
  have := (List.getElem?_eq_some_iff.mp hlog).1
  omega

theorem Kept.toNat_next (hc : c.Kept log) (hlen : log.length + 1 < UInt32.size) :
    c.nextNumber.toNat = log.length + 1 := by
  rw [hc.next, UInt32.toNat_ofNat_of_lt' hlen]

/-- A handler that is asked for its number has it afterwards. -/
theorem get?_number : (c.number h).2.handlers.get? (c.number h).1 = some h := by
  unfold number
  cases hn : numberIn h c.handlers.entries with
  | some n =>
    obtain ⟨e, he, rfl⟩ := Option.map_eq_some_iff.mp hn
    have hmem : (e.1, e.2) ∈ c.handlers.entries := List.mem_of_find?_eq_some he
    have hh : e.2 = h := by simpa using List.find?_some he
    rw [← hh]
    exact (Table.lookup_eq_some_iff c.handlers.nodup_keys).mpr hmem
  | none => exact Table.get?_set_self _ _ _

/-- A new number is none that has been given before. -/
theorem Kept.get?_number_of_le (hc : c.Kept log)
    (hlen : (log ++ if c.knows h then [] else [h]).length < UInt32.size)
    (hm : m.toNat ≤ log.length) : (c.number h).2.handlers.get? m = c.handlers.get? m := by
  by_cases hk : c.knows h = true
  · rw [handlers_number_of_knows hk]
  · rw [if_neg hk, List.length_append, List.length_singleton] at hlen
    have hnext := hc.toNat_next hlen
    rw [handlers_number_of_not_knows hk, Table.get?_set_of_ne]
    rintro rfl
    omega

theorem Kept.number (hc : c.Kept log)
    (hlen : (log ++ if c.knows h then [] else [h]).length < UInt32.size) :
    (c.number h).2.Kept (log ++ if c.knows h then [] else [h]) := by
  by_cases hk : c.knows h = true
  · rw [if_pos hk, List.append_nil, handlers_number_of_knows hk]
    exact hc
  · have hsame {m : UInt32} := hc.get?_number_of_le (m := m) hlen
    rw [if_neg hk] at hlen ⊢
    rw [List.length_append, List.length_singleton] at hlen
    refine ⟨oneNumber_number hc.oneNumber, fun m k hm => ?_, ?_⟩
    · rw [handlers_number_of_not_knows hk, Table.get?_set] at hm
      split at hm
      · rename_i heq
        obtain rfl := Option.some.inj hm
        refine ⟨log.length, heq ▸ hc.toNat_next hlen, ?_⟩
        rw [List.getElem?_append_right (Nat.le_refl _), Nat.sub_self]
        rfl
      · obtain ⟨i, hi, hlog⟩ := hc.given m k hm
        have hlt := (List.getElem?_eq_some_iff.mp hlog).1
        exact ⟨i, hi, by rw [List.getElem?_append_left hlt, hlog]⟩
    · have hnext : (c.number h).2.nextNumber = c.nextNumber + 1 := by
        unfold ClientEnd.number
        rw [numberIn_eq_none_iff.mpr hk]
      rw [hnext, hc.next, List.length_append, List.length_singleton,
        UInt32.ofNat_add (log.length + 1) 1]
      rfl

/-- Numbers that have been given before stay as they are, and the handlers in `hs` have one
afterwards. -/
theorem Kept.numbers {hs : List Handler} (hc : c.Kept log)
    (hlen : (log ++ issues hs c).length < UInt32.size) :
    (numbers hs c).2.Kept (log ++ issues hs c) ∧
      (∀ m : UInt32, m.toNat ≤ log.length →
        (numbers hs c).2.handlers.get? m = c.handlers.get? m) ∧
      ∀ (i : Nat) (h : Handler), hs[i]? = some h → ∃ m, (numbers hs c).1[i]? = some m ∧
        (numbers hs c).2.handlers.get? m = some h := by
  induction hs generalizing c log with
  | nil =>
    rw [issues, List.append_nil]
    exact ⟨hc, fun _ _ => rfl, fun _ _ => nofun⟩
  | cons h hs ih =>
    rw [issues, ← List.append_assoc] at hlen ⊢
    have hfirst : (log ++ if c.knows h then [] else [h]).length < UInt32.size := by
      rw [List.length_append] at hlen
      omega
    have hc' := hc.number hfirst
    obtain ⟨hkept, hold, hgiven⟩ := ih hc' hlen
    refine ⟨hkept, fun m hm => ?_, fun i k hi => ?_⟩
    · have hm' : m.toNat ≤ (log ++ if c.knows h then [] else [h]).length := by
        rw [List.length_append]
        omega
      exact (hold m hm').trans (hc.get?_number_of_le hfirst hm)
    · cases i with
      | zero =>
        obtain rfl := Option.some.inj hi
        have hm := get?_number (c := c) (h := h)
        exact ⟨_, rfl, (hold _ (hc'.le_of_get? hm)).trans hm⟩
      | succ i => exact hgiven i k hi

theorem Kept.release (hc : c.Kept log) (h : Handler) : (c.release h).Kept log := by
  refine ⟨oneNumber_release hc.oneNumber, fun m k hm => ?_, hc.next⟩
  simp only [ClientEnd.release, Table.get?_filter, Option.filter_eq_some_iff] at hm
  exact hc.given m k hm.1

theorem get?_release (m : UInt32) :
    (c.release h).handlers.get? m = (c.handlers.get? m).filter (· ≠ h) :=
  Table.get?_filter _ _ _

theorem Kept.congr {c' : ClientEnd} (hc : c.Kept log) (hhandlers : c'.handlers = c.handlers)
    (hnext : c'.nextNumber = c.nextNumber) : c'.Kept log :=
  ⟨(oneNumber_congr hhandlers).mpr hc.oneNumber, hhandlers ▸ hc.given, hnext ▸ hc.next⟩

end Socket.ClientEnd

/-! ## The gateway's end -/

namespace Socket.ServerEnd

variable {s : ServerEnd} {m k : UInt32} {p : Handler}

/-- Every stand-in is one of this connection for the number that it is kept under. -/
def Makes (s : ServerEnd) : Prop :=
  ∀ m p, s.proxies.get? m = some p → ∃ serial, p = .proxy s.connection serial m

theorem get?_proxyFor : (s.proxyFor m).2.proxies.get? m = some (s.proxyFor m).1 := by
  unfold proxyFor
  cases hm : s.proxies.get? m with
  | some p => exact hm
  | none => exact Table.get?_set_self _ _ _

/-- A stand-in that is kept is not replaced. -/
theorem get?_proxyFor_of_some (hk : s.proxies.get? k = some p) :
    (s.proxyFor m).2.proxies.get? k = some p := by
  unfold proxyFor
  cases hm : s.proxies.get? m with
  | some p => exact hk
  | none =>
    have hne : m ≠ k := by
      rintro rfl
      rw [hm] at hk
      cases hk
    exact (Table.get?_set_of_ne _ hne _).trans hk

theorem Makes.proxyFor (hs : s.Makes) (m : UInt32) : (s.proxyFor m).2.Makes ∧
    ∃ proxies made, (s.proxyFor m).2 = { s with proxies := proxies, made := made } := by
  unfold ServerEnd.proxyFor
  cases hm : s.proxies.get? m with
  | some p => exact ⟨hs, s.proxies, s.made, rfl⟩
  | none =>
    refine ⟨fun k p hk => ?_, _, _, rfl⟩
    have hk : (s.proxies.set m (.proxy s.connection s.made m)).get? k = some p := hk
    rw [Table.get?_set] at hk
    split at hk
    · rename_i heq
      obtain rfl := Option.some.inj hk
      exact ⟨s.made, heq ▸ rfl⟩
    · exact hs k p hk

/-- The numbers in `ms` have stand-ins afterwards, and those that had one have the same. -/
theorem Makes.proxiesFor (hs : s.Makes) (ms : List UInt32) :
    ((proxiesFor ms s).2.Makes ∧
      ∃ proxies made, (proxiesFor ms s).2 = { s with proxies := proxies, made := made }) ∧
    (∀ k p, s.proxies.get? k = some p → (proxiesFor ms s).2.proxies.get? k = some p) ∧
    ∀ (i : Nat) (m : UInt32), ms[i]? = some m → ∃ p, (proxiesFor ms s).1[i]? = some p ∧
      (proxiesFor ms s).2.proxies.get? m = some p := by
  induction ms generalizing s with
  | nil => exact ⟨⟨hs, s.proxies, s.made, rfl⟩, fun _ _ => id, fun _ _ => nofun⟩
  | cons m ms ih =>
    obtain ⟨hmakes, proxies, made, hsame⟩ := hs.proxyFor m
    obtain ⟨⟨hmakes', proxies', made', hsame'⟩, hkept, hmade⟩ := ih hmakes
    refine ⟨⟨hmakes', proxies', made', hsame'.trans (by rw [hsame])⟩,
      fun k p hk => hkept k p (get?_proxyFor_of_some hk), fun i k hi => ?_⟩
    cases i with
    | zero =>
      obtain rfl := Option.some.inj hi
      exact ⟨_, rfl, hkept _ _ get?_proxyFor⟩
    | succ i => exact hmade i k hi

theorem Makes.purge (hs : s.Makes) (held : Handler → Bool) : (s.purge held).Makes := by
  intro m p hm
  simp only [ServerEnd.purge, Table.get?_filter, Option.filter_eq_some_iff] at hm
  exact hs m p hm.1

theorem get?_purge {held : Handler → Bool} (hm : s.proxies.get? m = some p) (hp : held p = true) :
    (s.purge held).proxies.get? m = some p := by
  simp only [ServerEnd.purge, Table.get?_filter, Option.filter_eq_some_iff]
  exact ⟨hm, hp⟩

/-- The same when those that are not held have been forgotten. -/
theorem Makes.standInsFor (hs : s.Makes) (held : Handler → Bool) (ms : List UInt32) :
    ((s.standInsFor held ms).2.Makes ∧
      ∃ proxies made, (s.standInsFor held ms).2 = { s with proxies := proxies, made := made }) ∧
    (∀ k p, s.proxies.get? k = some p → held p = true →
      (s.standInsFor held ms).2.proxies.get? k = some p) ∧
    ∀ (i : Nat) (m : UInt32), ms[i]? = some m → ∃ p, (s.standInsFor held ms).1[i]? = some p ∧
      (s.standInsFor held ms).2.proxies.get? m = some p := by
  obtain ⟨hends, hkept, hmade⟩ := (hs.purge held).proxiesFor ms
  exact ⟨hends, fun k p hk hp => hkept k p (get?_purge hk hp), hmade⟩

end Socket.ServerEnd

/-! ## Runs on a connection -/

namespace Gateway

open Applet (Event)
open Socket (Handing Passes Reading roomy)

/-- A step of a run on a connection. -/
inductive Turn (τ : Type)
  | transact (code : UInt32) (envelope : Envelope)
  | release (h : Handler)
  /-- A handler that the gateway holds gets an event. -/
  | event (h : Handler) (e : Event)
  /-- The client reads the next event. -/
  | read
  /-- The client hands the next event out. -/
  | deliver
  /-- Whatever happens elsewhere, and what may become of the connection meanwhile. -/
  | elsewhere (gateway : Gateway τ) (closed delivering live : Bool)

/-- Whether a step releases a handler. -/
def Turn.releases {τ : Type} (h : Handler) : Turn τ → Bool
  | release k => k = h
  | _ => false

/-- Whether a step is one of the gateway or of the client of the connection. -/
def Turn.here {τ : Type} : Turn τ → Bool
  | elsewhere .. => false
  | _ => true

variable {τ : Type} [Transport τ] {peer : Caller} {n : Nat} {g : Gateway τ} {c : ClientEnd}
  {s : ServerEnd} {log : List Handler}

/-- A gateway in any state, in which the ends of a connection are those of `g` but for their
flags. -/
def aside (n : Nat) (x : Gateway τ) (closed delivering live : Bool) (g : Gateway τ) : Gateway τ :=
  match g.clientEnds.get? n, g.serverEnds.get? n with
  | some c, some s =>
    { x with
      clientEnds := x.clientEnds.set n { c with closed := closed, delivering := delivering }
      serverEnds := x.serverEnds.set n { s with live := live } }
  | _, _ => x

/-- The gateway after a step. -/
def Turn.apply (n : Nat) : Turn τ → Gateway τ → Gateway τ
  | transact code envelope, g => ((Gateway.transact (.socket n) code envelope).run g).2
  | release h, g => Gateway.release (.socket n) h g
  | event h e, g => ((handOver h e).run g).2
  | read, g => readEvent n g
  | deliver, g => ((deliverEvent n).run g).2
  | elsewhere x closed delivering live, g => aside n x closed delivering live g

/-- The gateway after some steps, the first of them first. -/
def after (n : Nat) (turns : List (Turn τ)) (g : Gateway τ) : Gateway τ :=
  turns.foldl (fun g t => t.apply n g) g

/-- When an event is delivered before the next, its stand-in gets it, and the client reads it and
hands it out. -/
theorem after_invoke (serial : Nat) (m : UInt32) (e : Event) (g : Gateway τ) :
    after n [.event (.proxy n serial m) e, .read, .deliver] g =
      ((invoke (.proxy n serial m) e).run g).2 := rfl

/-- The handlers that get a new number in a step, in order. -/
def Turn.issues (n : Nat) : Turn τ → Gateway τ → List Handler
  | transact _ envelope, g =>
    match g.clientEnds.get? n with
    | some c => if c.closed then [] else ClientEnd.issues envelope.objects c
    | none => []
  | _, _ => []

/-- The events that are written to the connection in a step, with their numbers. -/
def Turn.writes (n : Nat) : Turn τ → Gateway τ → List (UInt32 × Event)
  | event (.proxy k _ m) e, _ =>
    if k = n ∧ (Message.event m e).frame.isSome then [(m, e)] else []
  | _, _ => []

/-- The events that the client reads in a step: the next, or all that come before an answer. -/
def Turn.reads (n : Nat) : Turn τ → Gateway τ → List Reading
  | read, g => (g.clientEnds.get? n).elim [] ClientEnd.reading
  | transact code envelope, g =>
    (g.clientEnds.get? n).elim [] fun c =>
      let (objects, c) := c.numbers envelope.objects
      if c.closed ∨ (Message.call code envelope.data objects).frame.isNone then []
      else c.readings c.incoming.length
  | _, _ => []

/-- The events that the client hands out in a step. -/
def Turn.hands (n : Nat) : Turn τ → Gateway τ → List Handing
  | deliver, g => (g.clientEnds.get? n).elim [] ClientEnd.handing
  | _, _ => []

/-- What is noted when a handler has taken an event: a handler of a client itself does so. -/
def noted (h : Handler) (e : Event) : List (String × Event) :=
  match h with
  | .own name => [(name, e)]
  | .proxy .. => []

/-- What is noted when an event has been handed out. -/
def notedOf (d : Handing) : List (String × Event) :=
  (d.holder.map (noted · d.entry.2)).getD []

/-- What is noted in a step. -/
def Turn.notes (n : Nat) : Turn τ → Gateway τ → List (String × Event)
  | event h e, _ => noted h e
  | t, g => (t.hands n g).flatMap notedOf

/-- What comes up in the steps of a run, in order. -/
def logged {α : Type} (step : Nat → Turn τ → Gateway τ → List α) (n : Nat) :
    List (Turn τ) → Gateway τ → List α
  | [], _ => []
  | t :: turns, g => step n t g ++ logged step n turns (t.apply n g)

/-- The handlers that get a new number in a run, in order. -/
def issued (n : Nat) (turns : List (Turn τ)) (g : Gateway τ) : List Handler :=
  logged Turn.issues n turns g

/-- In the step a handler comes to the dispatcher, as a stand-in. -/
def Arrives (n : Nat) (g : Gateway τ) (t : Turn τ) (h p : Handler) : Prop :=
  ∃ code envelope standIns, t = .transact code envelope ∧
    delivered n code envelope g = some standIns ∧
    ∃ i : Nat, envelope.objects[i]? = some h ∧ standIns[i]? = some p

/-- The two ends of a connection of `peer` whose client has given numbers to the handlers in
`log`. -/
structure Joined (peer : Caller) (n : Nat) (log : List Handler) (g : Gateway τ) (c : ClientEnd)
    (s : ServerEnd) : Prop where
  client : g.clientEnds.get? n = some c
  server : g.serverEnds.get? n = some s
  kept : c.Kept log
  makes : s.Makes
  connection : s.connection = n
  peer : s.peer = peer
  clean : s.decoder = {}

/-- What becomes of both ends when the handlers in `released` are released and the stand-ins in
`stays` are held. -/
structure Carries (log : List Handler) (released : Handler → Bool) (stays : Handler → Prop)
    (c c' : ClientEnd) (s s' : ServerEnd) : Prop where
  /-- A handler keeps its number until it is released. -/
  numbered : ∀ m h, c.handlers.get? m = some h →
    c'.handlers.get? m = if released h then none else some h
  /-- A number that has been given before is given to nobody again. -/
  spent : ∀ m : UInt32, m.toNat ≤ log.length → c.handlers.get? m = none → c'.handlers.get? m = none
  /-- A stand-in that is held is kept. -/
  standIns : ∀ m p, s.proxies.get? m = some p → stays p → s'.proxies.get? m = some p

theorem Carries.trans {more : List Handler} {released released' : Handler → Bool}
    {stays stays' : Handler → Prop} {c₁ c' : ClientEnd} {s₁ s' : ServerEnd} (hc : c.Kept log)
    (h₁ : Carries log released stays c c₁ s s₁)
    (h₂ : Carries (log ++ more) released' stays' c₁ c' s₁ s') :
    Carries log (fun h => released h || released' h) (fun p => stays p ∧ stays' p) c c' s s' := by
  have hspent {m : UInt32} (hm : m.toNat ≤ log.length) (hnone : c₁.handlers.get? m = none) :
      c'.handlers.get? m = none := by
    refine h₂.spent m ?_ hnone
    rw [List.length_append]
    omega
  refine ⟨fun m h hm => ?_, fun m hm hnone => hspent hm (h₁.spent m hm hnone),
    fun m p hp hstays => h₂.standIns m p (h₁.standIns m p hp hstays.1) hstays.2⟩
  have hfirst := h₁.numbered m h hm
  cases hreleased : released h with
  | true =>
    rw [hreleased] at hfirst
    exact hspent (hc.le_of_get? hm) hfirst
  | false =>
    rw [hreleased] at hfirst
    exact h₂.numbered m h hfirst

/-- What a step does at both ends. -/
structure Follows (n : Nat) (log : List Handler) (t : Turn τ) (g : Gateway τ) (c c' : ClientEnd)
    (s s' : ServerEnd) : Prop
    extends Carries log (t.releases ·) (held g.service · = true) c c' s s' where
  /-- What arrives is the stand-in for the number of the handler. -/
  arrivals : ∀ h p, Arrives n g t h p → ∃ m serial, p = .proxy n serial m ∧
    c'.handlers.get? m = some h ∧ s'.proxies.get? m = some p
  /-- What becomes of the events. -/
  events : Passes (t.writes n g) (t.reads n g) (t.hands n g) c c'
  /-- Nothing else is noted. -/
  noted : t.here = true → (t.apply n g).taken = g.taken ++ t.notes n g

omit [Transport τ] in
theorem not_arrives_of_ne {t : Turn τ} {h p : Handler}
    (ht : ∀ code envelope, t ≠ .transact code envelope) : ¬ Arrives n g t h p :=
  fun ⟨code, envelope, _, heq, _⟩ => ht code envelope heq

theorem Joined.release (hj : Joined peer n log g c s) (k : Handler) :
    ∃ c' s', Joined peer n log ((Turn.release k).apply n g) c' s' ∧
      Follows n log (.release k) g c c' s s' := by
  have happly : (Turn.release k).apply n g =
      { g with clientEnds := g.clientEnds.set n (c.release k) } := by
    simp only [Turn.apply, Gateway.release, hj.client]
  refine ⟨c.release k, s, ⟨?_, ?_, hj.kept.release k, hj.makes, hj.connection, hj.peer, hj.clean⟩,
    ⟨fun m h hm => ?_, fun m _ hm => ?_, fun _ _ hp _ => hp⟩,
    fun _ _ ha => absurd ha (not_arrives_of_ne (by rintro _ _ ⟨⟩)), .none rfl rfl, fun _ => ?_⟩
  · rw [happly]
    exact Table.get?_set_self _ _ _
  · rw [happly]
    exact hj.server
  · rw [ClientEnd.get?_release, hm, Turn.releases]
    by_cases hk : k = h
    · simp [hk, Option.filter]
    · simp [hk, Ne.symm hk, Option.filter]
  · rw [ClientEnd.get?_release, hm]
    rfl
  · rw [happly]
    exact (List.append_nil _).symm

theorem Joined.elsewhere (hj : Joined peer n log g c s) (x : Gateway τ)
    (closed delivering live : Bool) :
    ∃ c' s', Joined peer n log ((Turn.elsewhere x closed delivering live).apply n g) c' s' ∧
      Follows n log (.elsewhere x closed delivering live) g c c' s s' := by
  have happly : (Turn.elsewhere x closed delivering live).apply n g = { x with
      clientEnds := x.clientEnds.set n { c with closed := closed, delivering := delivering }
      serverEnds := x.serverEnds.set n { s with live := live } } := by
    simp only [Turn.apply, aside, hj.client, hj.server]
  rw [happly]
  exact ⟨_, _, ⟨Table.get?_set_self _ _ _, Table.get?_set_self _ _ _, hj.kept.congr rfl rfl,
    hj.makes, hj.connection, hj.peer, hj.clean⟩,
    ⟨fun _ _ hm => hm, fun _ _ hm => hm, fun _ _ hp _ => hp⟩,
    fun _ _ ha => absurd ha (not_arrives_of_ne (by rintro _ _ ⟨⟩)), .none rfl rfl, nofun⟩

/-- A step that concerns the events only. -/
theorem Joined.eventful (hj : Joined peer n log g c s) {t : Turn τ} {c' : ClientEnd}
    (hclient : (t.apply n g).clientEnds.get? n = some c')
    (hserver : (t.apply n g).serverEnds.get? n = some s)
    (hhandlers : c'.handlers = c.handlers) (hnext : c'.nextNumber = c.nextNumber)
    (ht : ∀ code envelope, t ≠ .transact code envelope) (hreleases : ∀ h, t.releases h = false)
    (hevents : Passes (t.writes n g) (t.reads n g) (t.hands n g) c c')
    (hnoted : (t.apply n g).taken = g.taken ++ t.notes n g) :
    ∃ c' s', Joined peer n log (t.apply n g) c' s' ∧ Follows n log t g c c' s s' := by
  refine ⟨c', s, ⟨hclient, hserver, hj.kept.congr hhandlers hnext, hj.makes, hj.connection, hj.peer,
    hj.clean⟩, ⟨fun m h hm => ?_, fun m _ hm => ?_, fun _ _ hp _ => hp⟩,
    fun _ _ ha => absurd ha (not_arrives_of_ne ht), hevents, fun _ => hnoted⟩
  · rw [hreleases, hhandlers, hm]
    rfl
  · rw [hhandlers, hm]

omit [Transport τ] in
/-- A stand-in gets an event. -/
theorem run_handOver_proxy (k serial : Nat) (m : UInt32) (e : Event) :
    ((handOver (.proxy k serial m) e).run g).2 = match g.clientEnds.get? k with
      | some c => if (Message.event m e).frame.isSome then
          { g with clientEnds := g.clientEnds.set k (c.post m e) } else g
      | none => g := by
  simp only [handOver, StateT.run_bind, StateT.run_get, pure_bind]
  cases g.clientEnds.get? k with
  | none => rfl
  | some c =>
    cases (Message.event m e).frame with
    | none => rfl
    | some bytes => rfl

theorem Joined.event (hj : Joined peer n log g c s) (h : Handler) (e : Event) :
    ∃ c' s', Joined peer n log ((Turn.event h e).apply n g) c' s' ∧
      Follows n log (.event h e) g c c' s s' := by
  cases h with
  | own name =>
    exact hj.eventful hj.client hj.server rfl rfl (by rintro _ _ ⟨⟩) (fun _ => rfl)
      (.none rfl rfl) rfl
  | proxy k serial m =>
    have happly : (Turn.event (.proxy k serial m) e).apply n g = _ :=
      run_handOver_proxy k serial m e
    by_cases hwritten : k = n ∧ (Message.event m e).frame.isSome
    · obtain ⟨rfl, hframe⟩ := hwritten
      simp only [hj.client, if_pos hframe] at happly
      have hwrites : (Turn.event (.proxy k serial m) e).writes k g = [(m, e)] :=
        if_pos ⟨rfl, hframe⟩
      have hclient : ((Turn.event (.proxy k serial m) e).apply k g).clientEnds.get? k =
          some (c.post m e) := by
        rw [happly]
        exact Table.get?_set_self _ _ _
      refine hj.eventful hclient ?_ rfl rfl (by rintro _ _ ⟨⟩) (fun _ => rfl) ?_ ?_
      · rw [happly]
        exact hj.server
      · rw [hwrites]
        exact ClientEnd.passes_post m e c
      · rw [happly]
        exact (List.append_nil _).symm
    · -- The event goes to another connection, or nowhere.
      have hwrites : (Turn.event (.proxy k serial m) e).writes n g = [] := if_neg hwritten
      have hsame : ((Turn.event (.proxy k serial m) e).apply n g).clientEnds.get? n = some c ∧
          ((Turn.event (.proxy k serial m) e).apply n g).serverEnds.get? n = some s ∧
          ((Turn.event (.proxy k serial m) e).apply n g).taken = g.taken := by
        rw [happly]
        split
        · split
          · rename_i hframe
            have hne : k ≠ n := fun hk => hwritten ⟨hk, hframe⟩
            exact ⟨(Table.get?_set_of_ne _ hne _).trans hj.client, hj.server, rfl⟩
          · exact ⟨hj.client, hj.server, rfl⟩
        · exact ⟨hj.client, hj.server, rfl⟩
      refine hj.eventful hsame.1 hsame.2.1 rfl rfl (by rintro _ _ ⟨⟩) (fun _ => rfl) ?_ ?_
      · rw [hwrites]
        exact .none rfl rfl
      · rw [hsame.2.2]
        exact (List.append_nil _).symm

theorem Joined.read (hj : Joined peer n log g c s) :
    ∃ c' s', Joined peer n log (Turn.read.apply n g) c' s' ∧ Follows n log .read g c c' s s' := by
  have happly : Turn.read.apply n g =
      { g with clientEnds := g.clientEnds.set n c.readEvent } := by
    simp only [Turn.apply, readEvent, hj.client]
  have hreads : Turn.read.reads n g = c.reading := by
    simp only [Turn.reads, hj.client, Option.elim_some]
  have hclient : (Turn.read.apply n g).clientEnds.get? n = some c.readEvent := by
    rw [happly]
    exact Table.get?_set_self _ _ _
  obtain ⟨incoming, waiting, hread⟩ := c.readEvent_eq
  refine hj.eventful hclient ?_ (by rw [hread]) (by rw [hread]) (by rintro _ _ ⟨⟩)
    (fun _ => rfl) ?_ ?_
  · rw [happly]
    exact hj.server
  · rw [hreads]
    exact c.passes_readEvent
  · rw [happly]
    exact (List.append_nil _).symm

omit [Transport τ] in
/-- What handing an event out does. A handler that breaks down has taken the event all the same. -/
theorem run_deliverEvent (hc : g.clientEnds.get? n = some c) : ∃ delivering,
    let g' := ((deliverEvent n).run g).2
    g'.clientEnds.get? n = some { c.nextEvent.2 with delivering := delivering } ∧
      g'.serverEnds = g.serverEnds ∧ g'.taken = g.taken ++ c.handing.flatMap notedOf := by
  have hidle (hnext : c.nextEvent = (none, c)) (hhanding : c.handing = []) : ∃ delivering,
      let g' := ((deliverEvent n).run g).2
      g'.clientEnds.get? n = some { c.nextEvent.2 with delivering := delivering } ∧
        g'.serverEnds = g.serverEnds ∧ g'.taken = g.taken ++ c.handing.flatMap notedOf := by
    have hrun : ((deliverEvent n).run g).2 = g := by
      simp only [deliverEvent, StateT.run_bind, StateT.run_get, pure_bind, hc, hnext]
      rfl
    refine ⟨c.delivering, ?_, ?_, ?_⟩
    · rw [hrun, hnext]
      exact hc
    · rw [hrun]
    · rw [hrun, hhanding]
      exact (List.append_nil _).symm
  match hdelivering : c.delivering, hwaiting : c.waiting with
  | false, _ =>
    exact hidle (by simp only [ClientEnd.nextEvent, hdelivering])
      (by simp only [ClientEnd.handing, hdelivering])
  | true, [] =>
    exact hidle (by simp only [ClientEnd.nextEvent, hdelivering, hwaiting])
      (by simp only [ClientEnd.handing, hdelivering, hwaiting])
  | true, (m, e) :: rest =>
    have hnext : c.nextEvent = (some (m, e), { c with waiting := rest }) := by
      simp only [ClientEnd.nextEvent, hdelivering, hwaiting]
    have hhanding : c.handing = [⟨(m, e), c.handlerOf m⟩] := by
      simp only [ClientEnd.handing, hdelivering, hwaiting]
    have hholder : { c with waiting := rest }.handlerOf m = c.handlerOf m := rfl
    simp only [deliverEvent, StateT.run_bind, StateT.run_get, StateT.run_modify, pure_bind, hc,
      hnext, hhanding, hholder, List.flatMap_singleton, notedOf]
    cases hh : c.handlerOf m with
    | none =>
      exact ⟨c.delivering, Table.get?_set_self _ _ _, rfl, (List.append_nil _).symm⟩
    | some h =>
      cases h with
      | proxy connection serial object =>
        exact ⟨c.delivering, Table.get?_set_self _ _ _, rfl, (List.append_nil _).symm⟩
      | own name =>
        let taken : Gateway τ := { g with
          clientEnds := g.clientEnds.set n { c with waiting := rest }
          taken := g.taken ++ [(name, e)] }
        let stopped : ClientEnd := { c with waiting := rest, delivering := false }
        show ∃ delivering,
          let g' := ((if g.temper name = .crashed then
            modify (fun g => { g with clientEnds := g.clientEnds.set n stopped })
            else pure () : StateM (Gateway τ) Unit).run taken).2
          g'.clientEnds.get? n = some { c with waiting := rest, delivering := delivering } ∧
            g'.serverEnds = g.serverEnds ∧ g'.taken = g.taken ++ [(name, e)]
        split
        · exact ⟨false, Table.get?_set_self _ _ _, rfl, rfl⟩
        · exact ⟨c.delivering, Table.get?_set_self _ _ _, rfl, rfl⟩

theorem Joined.deliver (hj : Joined peer n log g c s) :
    ∃ c' s', Joined peer n log (Turn.deliver.apply n g) c' s' ∧
      Follows n log .deliver g c c' s s' := by
  obtain ⟨delivering, hclient, hserver, htaken⟩ := run_deliverEvent hj.client
  obtain ⟨waiting, hnext⟩ := c.nextEvent_eq
  have hhands : Turn.deliver.hands n g = c.handing := by
    simp only [Turn.hands, hj.client, Option.elim_some]
  have hnotes : Turn.deliver.notes n g = c.handing.flatMap notedOf := by
    rw [Turn.notes, hhands]
    rintro _ _ ⟨⟩
  have hpasses := c.passes_nextEvent
  refine hj.eventful hclient ?_ (by rw [hnext]) (by rw [hnext]) (by rintro _ _ ⟨⟩) (fun _ => rfl)
    ?_ ?_
  · exact hserver ▸ hj.server
  · rw [hhands]
    exact ⟨hpasses.incoming, hpasses.waiting, hpasses.bounded⟩
  · rw [hnotes]
    exact htaken

omit [Transport τ] in
/-- What a call does at the client's end. -/
theorem calledEnd_eq (code : UInt32) (envelope : Envelope) (hc : g.clientEnds.get? n = some c) :
    let c' := if c.closed then c else (c.numbers envelope.objects).2
    (calledEnd code envelope c).handlers = c'.handlers ∧
      (calledEnd code envelope c).nextNumber = c'.nextNumber ∧
      Passes [] ((Turn.transact code envelope).reads n g) [] c (calledEnd code envelope c) := by
  obtain ⟨handlers, next, hnumbers⟩ := c.numbers_eq envelope.objects
  have hpasses : Passes [] [] [] c (c.numbers envelope.objects).2 :=
    .none (by rw [hnumbers]) (by rw [hnumbers])
  have hclosed : (c.numbers envelope.objects).2.closed = c.closed := by rw [hnumbers]
  have hreads : (Turn.transact code envelope).reads n g =
      if c.closed ∨ (Message.call code envelope.data
        (c.numbers envelope.objects).1).frame.isNone then []
      else (c.numbers envelope.objects).2.readings
        (c.numbers envelope.objects).2.incoming.length := by
    simp only [Turn.reads, hc, Option.elim_some, hclosed]
  dsimp only
  rw [hreads]
  by_cases hclosed : c.closed = true
  · have hcalled : calledEnd code envelope c = c := if_pos hclosed
    rw [hcalled, if_pos hclosed, if_pos (.inl hclosed)]
    exact ⟨rfl, rfl, .none rfl rfl⟩
  · by_cases hframe : (Message.call code envelope.data
        (c.numbers envelope.objects).1).frame.isNone = true
    · have hcalled : calledEnd code envelope c = (c.numbers envelope.objects).2 := by
        simp only [calledEnd, if_neg hclosed, if_pos hframe]
      rw [hcalled, if_neg hclosed, if_pos (.inr hframe)]
      exact ⟨rfl, rfl, hpasses⟩
    · have hcalled : calledEnd code envelope c = (c.numbers envelope.objects).2.readEvents := by
        simp only [calledEnd, if_neg hclosed, if_neg hframe]
      obtain ⟨incoming, waiting, hread⟩ := (c.numbers envelope.objects).2.readEvents_eq
      rw [hcalled, if_neg hclosed, if_neg (not_or.mpr ⟨hclosed, hframe⟩)]
      exact ⟨by rw [hread], by rw [hread],
        hpasses.trans (ClientEnd.passes_readings _ (c.numbers envelope.objects).2)⟩

omit [Transport τ] in
/-- The stand-ins that are delivered are those for the numbers of the handlers. -/
theorem delivered_eq_some (hc : g.clientEnds.get? n = some c) (hs : g.serverEnds.get? n = some s)
    {code : UInt32} {envelope : Envelope} {standIns : List Handler}
    (h : delivered n code envelope g = some standIns) : c.closed = false ∧
      standIns = (s.standInsFor (held g.service) (c.numbers envelope.objects).1).1 := by
  rw [delivered_eq hc hs] at h
  split at h
  · cases h
  · rename_i hthrough
    refine ⟨?_, (Option.some.inj h).symm⟩
    cases hclosed : c.closed with
    | true => exact absurd (.inl hclosed) hthrough
    | false => rfl

theorem Joined.transact (hj : Joined peer n log g c s) (code : UInt32) (envelope : Envelope)
    (hlen : (log ++ (Turn.transact code envelope).issues n g).length < UInt32.size) :
    ∃ c' s', Joined peer n (log ++ (Turn.transact code envelope).issues n g)
        ((Turn.transact code envelope).apply n g) c' s' ∧
      Follows n log (.transact code envelope) g c c' s s' := by
  obtain ⟨⟨closed, hclient⟩, ⟨s', hserver, ⟨live, hs'⟩, -⟩, htaken⟩ :=
    transacted hj.client hj.server hj.clean code envelope
  have hissues : (Turn.transact code envelope).issues n g =
      if c.closed then [] else ClientEnd.issues envelope.objects c := by
    simp only [Turn.issues, hj.client]
  rw [hissues] at hlen ⊢
  -- The client's end.
  obtain ⟨hhandlers, hnext, hevents⟩ := calledEnd_eq code envelope hj.client
  have hnumbers : (if c.closed then c else (c.numbers envelope.objects).2).Kept
        (log ++ if c.closed then [] else ClientEnd.issues envelope.objects c) ∧
      ∀ m : UInt32, m.toNat ≤ log.length →
        (if c.closed then c else (c.numbers envelope.objects).2).handlers.get? m =
          c.handlers.get? m := by
    by_cases hclosed : c.closed = true
    · rw [if_pos hclosed, if_pos hclosed, List.append_nil]
      exact ⟨hj.kept, fun _ _ => rfl⟩
    · rw [if_neg hclosed] at hlen
      rw [if_neg hclosed, if_neg hclosed]
      exact ⟨(hj.kept.numbers hlen).1, (hj.kept.numbers hlen).2.1⟩
  obtain ⟨hkept, hold⟩ := hnumbers
  -- The gateway's end.
  obtain ⟨⟨hmakes, proxies, made, hsame⟩, hheld, hmade⟩ :=
    hj.makes.standInsFor (held g.service) (c.numbers envelope.objects).1
  have hends : s'.Makes ∧ s'.connection = n ∧ s'.peer = peer ∧ s'.decoder = {} ∧
      ∀ m p, s.proxies.get? m = some p → held g.service p = true →
        s'.proxies.get? m = some p := by
    rcases hs' with rfl | ⟨rfl, -⟩
    · refine ⟨hmakes, ?_, ?_, ?_, hheld⟩
      · rw [hsame]
        exact hj.connection
      · rw [hsame]
        exact hj.peer
      · rw [hsame]
        exact hj.clean
    · exact ⟨hj.makes, hj.connection, hj.peer, hj.clean, fun _ _ hp _ => hp⟩
  refine ⟨_, s', ⟨hclient, hserver, hkept.congr hhandlers hnext, hends.1, hends.2.1, hends.2.2.1,
    hends.2.2.2.1⟩, ⟨fun m h hm => ?_, fun m hm hnone => ?_, hends.2.2.2.2⟩, fun h p ha => ?_,
    ⟨hevents.incoming, hevents.waiting, hevents.bounded⟩, fun _ => ?_⟩
  · show (calledEnd code envelope c).handlers.get? m = _
    rw [hhandlers]
    exact (hold m (hj.kept.le_of_get? hm)).trans hm
  · show (calledEnd code envelope c).handlers.get? m = _
    rw [hhandlers]
    exact (hold m hm).trans hnone
  · obtain ⟨_, _, standIns, heq, hdelivered, i, hi, hp⟩ := ha
    cases heq
    obtain ⟨hclosed, rfl⟩ := delivered_eq_some hj.client hj.server hdelivered
    have hfree : ¬ c.closed = true := by simp [hclosed]
    rw [if_neg hfree] at hlen
    obtain ⟨m, hm, hnumbered⟩ := (hj.kept.numbers hlen).2.2 i h hi
    obtain ⟨q, hq, hkeptq⟩ := hmade i m hm
    obtain rfl : q = p := Option.some.inj (hq.symm.trans hp)
    obtain ⟨serial, hserial⟩ := hmakes m q hkeptq
    have hconnection : (s.standInsFor (held g.service)
        (c.numbers envelope.objects).1).2.connection = n := by
      rw [hsame]
      exact hj.connection
    rw [hconnection] at hserial
    refine ⟨m, serial, hserial, ?_, ?_⟩
    · show (calledEnd code envelope c).handlers.get? m = _
      rw [hhandlers, if_neg hfree]
      exact hnumbered
    · rcases hs' with rfl | ⟨-, hnone⟩
      · exact hkeptq
      · rw [hdelivered] at hnone
        cases hnone
  · exact htaken.trans (List.append_nil _).symm

/-- What a step does, as long as the numbers do not run out. -/
theorem Joined.apply (hj : Joined peer n log g c s) (t : Turn τ)
    (hlen : (log ++ t.issues n g).length < UInt32.size) :
    ∃ c' s', Joined peer n (log ++ t.issues n g) (t.apply n g) c' s' ∧
      Follows n log t g c c' s s' := by
  cases t with
  | transact code envelope => exact hj.transact code envelope hlen
  | release k =>
    rw [show (Turn.release k : Turn τ).issues n g = [] from rfl, List.append_nil]
    exact hj.release k
  | event h e =>
    rw [show (Turn.event h e : Turn τ).issues n g = [] from rfl, List.append_nil]
    exact hj.event h e
  | read =>
    rw [show (Turn.read : Turn τ).issues n g = [] from rfl, List.append_nil]
    exact hj.read
  | deliver =>
    rw [show (Turn.deliver : Turn τ).issues n g = [] from rfl, List.append_nil]
    exact hj.deliver
  | elsewhere x closed delivering live =>
    rw [show (Turn.elsewhere x closed delivering live).issues n g = [] from rfl, List.append_nil]
    exact hj.elsewhere x closed delivering live

/-- What a run leaves at both ends, as long as the numbers do not run out. -/
theorem Joined.after (hj : Joined peer n log g c s) (turns : List (Turn τ))
    (hlen : (log ++ issued n turns g).length < UInt32.size) :
    ∃ c' s', Joined peer n (log ++ issued n turns g) (after n turns g) c' s' ∧
      Carries log (fun h => turns.any (·.releases h))
        (fun p => ∀ mid, mid <+: turns → held (after n mid g).service p = true) c c' s s' ∧
      Passes (logged Turn.writes n turns g) (logged Turn.reads n turns g)
        (logged Turn.hands n turns g) c c' := by
  induction turns generalizing g c s log with
  | nil =>
    rw [issued, logged, List.append_nil]
    exact ⟨c, s, hj, ⟨fun _ _ hm => hm, fun _ _ hm => hm, fun _ _ hp _ => hp⟩, .none rfl rfl⟩
  | cons t turns ih =>
    rw [issued, logged, ← List.append_assoc] at hlen ⊢
    have hfirst : (log ++ t.issues n g).length < UInt32.size := by
      rw [List.length_append] at hlen
      omega
    obtain ⟨c₁, s₁, hj₁, hfollows⟩ := hj.apply t hfirst
    obtain ⟨c', s', hj', hcarries, hpasses⟩ := ih hj₁ hlen
    have hall := hfollows.toCarries.trans hj.kept hcarries
    refine ⟨c', s', hj', ⟨hall.numbered, hall.spent, fun m p hp hheld => ?_⟩,
      hfollows.events.trans hpasses⟩
    exact hall.standIns m p hp ⟨hheld [] List.nil_prefix,
      fun mid hmid => hheld (t :: mid) (List.cons_prefix_cons.mpr ⟨rfl, hmid⟩)⟩

section Identity

variable {turns before between later : List (Turn τ)} {x t : Turn τ} {h k p q : Handler}
  {m : UInt32}

end Identity

end Gateway

end AppletGateway
