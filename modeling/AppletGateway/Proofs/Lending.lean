import AppletGateway.Device.Channel
import AppletGateway.Gateway
import AppletGateway.Proofs.ClientCalls

/-!
# The handlers lent to a remote

A handler that a request carries is lent to the remote until it is released. The client notes one
handler for an app, and means to have released every handler that it no longer notes. It does so
wherever it takes a handler out of its table, but noting a handler for an app that has another one
noted writes over the other. That happens when someone else has unbound the other at the gateway.

Over a connection the handlers lent are those with a number at the client's end, as long as the
numbers do not run out: a handler that gets a number in use takes it from the one that had it.

Results:
* `Lending.handlers_lent`: whatever the remote answers, a client's handlers are lent, and all that
  are lent are the client's exactly if no call displaces one. Those with a number at the client's
  end are those that are lent exactly if no call clashes.
* `Lending.displaced_stays_lent`: a handler that is displaced stays lent.
-/

namespace AppletGateway

/-- A remote with a record of the handlers that were sent through it and not released since. -/
structure Lending (ρ : Type) where
  remote : ρ
  lent : List Handler := []

instance {ρ : Type} [Remote ρ] : Remote (Lending ρ) where
  transact code envelope r :=
    let (reply, remote) := Remote.transact code envelope r.remote
    (reply, { remote := remote, lent := r.lent ++ envelope.objects })
  release h r := { remote := Remote.release h r.remote, lent := r.lent.filter fun kept => kept ≠ h }

namespace Lending

open Client (perform Call)

variable {ρ : Type} [Remote ρ] {c : Client (Lending ρ)}

/-! ## One call -/

theorem lent_sent (c : Client (Lending ρ)) (q : Request) :
    (c.sent q).lent = c.remote.lent ++ q.handlers :=
  congrArg (c.remote.lent ++ ·) (q.objects_encode c.descriptor)

theorem mem_lent_letGo {h : Handler} {released : List Handler} {r : Lending ρ} :
    h ∈ (Client.letGo released r).lent ↔ h ∈ r.lent ∧ h ∉ released := by
  unfold Client.letGo
  induction released generalizing r with
  | nil => simp
  | cons k released ih =>
    rw [List.foldl_cons, ih]
    simp [Remote.release, and_assoc]

theorem remote_letGo (released : List Handler) (r : Lending ρ) :
    (Client.letGo released r).remote = Client.letGo released r.remote := by
  unfold Client.letGo
  induction released generalizing r with
  | nil => rfl
  | cons k released ih => exact ih _

/-- What a call does to the handlers that are lent. -/
structure Lends (c : Client (Lending ρ)) (call : Call) (handlers released : List Handler)
    (r : Except Status Client.Answer) (c' : Client (Lending ρ)) : Prop where
  sends : handlers = (call.brings.map Prod.snd).toList
  lent : ∀ h, h ∈ c'.remote.lent ↔ (h ∈ c.remote.lent ∨ h ∈ handlers) ∧ h ∉ released
  accounts : Client.Accounts c call handlers released r c'

theorem lends_of_settled {call : Call} {q : Request} {r : Except Status Client.Answer}
    {c' : Client (Lending ρ)} {released : List Handler} (hq : call.request? = some q)
    (hremote : c'.remote = Client.letGo released (c.sent q))
    (haccounts : Client.Accounts c call q.handlers released r c') :
    Lends c call q.handlers released r c' where
  sends := Call.handlers_of_request? hq
  lent h := by rw [hremote, mem_lent_letGo, lent_sent, List.mem_append]
  accounts := haccounts

omit [Remote ρ] in
theorem lends_of_calm {call : Call} {r : Except Status Client.Answer} {c' : Client (Lending ρ)}
    (hb : call.brings = none) (ht : c'.bindings = c.bindings)
    (hl : c'.remote.lent = c.remote.lent) : Lends c call [] [] r c' where
  sends := by rw [hb]; rfl
  lent h := by simp [hl]
  accounts := Client.accounts_unchanged hb ht

/-- A request that cannot change the handlers lends none. -/
theorem keeps_lent (q : Request) (hbinds : q.opcode.binds = false) :
    Keeps (fun c' : Client (Lending ρ) =>
      c'.bindings = c.bindings ∧ c'.remote.lent = c.remote.lent) (Client.call q) := by
  intro c' ⟨ht, hl⟩
  refine Client.ends_call.mpr ⟨ht, ?_⟩
  rw [lent_sent, Request.handlers_of_not_binds hbinds, List.append_nil, hl]

theorem ends_lends (c : Client (Lending ρ)) (call : Call) :
    Ends (perform call) c fun r c' => ∃ handlers released, Lends c call handlers released r c' := by
  cases hq : call.request? with
  | some q =>
    refine (Client.settles_perform hq).mono fun r c' hs => ?_
    obtain ⟨released, hremote, haccounts⟩ := hs.remote
    exact ⟨_, _, lends_of_settled hq hremote haccounts⟩
  | none =>
    obtain ⟨hbinds, hbrings⟩ := Call.calm_of_request? hq
    refine (Client.keeps_perform keeps_lent hbinds c ⟨rfl, rfl⟩).mono fun r c' ⟨ht, hl⟩ => ?_
    exact ⟨[], [], lends_of_calm hbrings ht hl⟩

/-- Every handler that the client holds is lent. -/
def Covers (c : Client (Lending ρ)) : Prop := ∀ h, c.holds h = true → h ∈ c.remote.lent

/-- The handlers that are lent are those that the client holds. -/
def Matches (c : Client (Lending ρ)) : Prop := ∀ h, h ∈ c.remote.lent ↔ c.holds h = true

/-- A call that succeeds and writes over a handler that no other app has bound. -/
def Displaces (c : Client (Lending ρ)) (call : Call) : Prop :=
  (∃ a, ((perform call).run c).1 = .ok a) ∧ ∃ h, Client.Replaces c call h

section Lends

variable {call : Call} {handlers released : List Handler} {r : Except Status Client.Answer}
  {c' : Client (Lending ρ)}

omit [Remote ρ]

/-- Whatever the call, no handler is lost that the client holds. -/
theorem Lends.covers (h : Lends c call handlers released r c') (hc : Covers c) : Covers c' := by
  intro k hk
  obtain ⟨hfrom, hnot, _⟩ := (h.accounts.holds k).mp hk
  exact (h.lent k).mpr ⟨hfrom.imp_left (hc k), hnot⟩

theorem Lends.matches_iff (h : Lends c call handlers released r c') (hc : Matches c) :
    Matches c' ↔ ¬ ((∃ a, r = .ok a) ∧ ∃ k, Client.Replaces c call k) := by
  have hiff (k : Handler) : (k ∈ c'.remote.lent ↔ c'.holds k = true) ↔
      ¬ ((∃ a, r = .ok a) ∧ Client.Replaces c call k) := by
    rw [h.lent k, h.accounts.holds k, hc k]
    constructor
    · intro hsame hdisplaced
      -- What is displaced was held, and it is not released.
      obtain ⟨app, _, _, _, happ, _⟩ := hdisplaced.2
      have hheld : c.holds k = true := Client.holds_iff.mpr ⟨app, happ⟩
      have hnot : k ∉ released := h.accounts.replaced k hdisplaced.1 hdisplaced.2
      exact (hsame.mp ⟨.inl hheld, hnot⟩).2.2 hdisplaced
    · intro hno
      exact ⟨fun ⟨hfrom, hnot⟩ => ⟨hfrom, hnot, hno⟩, fun ⟨hfrom, hnot, _⟩ => ⟨hfrom, hnot⟩⟩
  unfold Matches
  simp only [hiff]
  exact ⟨fun hall ⟨hok, k, hk⟩ => hall k ⟨hok, hk⟩, fun hno k ⟨hok, hk⟩ => hno ⟨hok, k, hk⟩⟩

end Lends

/-! ## Runs -/

/-- What happens in front of a remote: a call of the client, or something else. -/
inductive Step (κ : Type)
  | call (call : Call)
  | outside (k : κ)

section Runs

variable {κ : Type} (disturb : κ → ρ → ρ)

/-- The client after a step. What happens outside changes the remote and nothing that is lent. -/
def step (c : Client (Lending ρ)) : Step κ → Client (Lending ρ)
  | .call call => ((perform call).run c).2
  | .outside k => { c with remote := { c.remote with remote := disturb k c.remote.remote } }

/-- The client after some steps, the first of them first. -/
def after (steps : List (Step κ)) (c : Client (Lending ρ)) : Client (Lending ρ) :=
  steps.foldl (step disturb) c

omit [Remote ρ] in
/-- A client before its first call. -/
def start (remote : ρ) (descriptor : String) (initialLength : UInt32) : Client (Lending ρ) :=
  .new { remote := remote } descriptor initialLength

/-- A run is good all the way exactly if no call in it is bad, if only calls can be. -/
theorem after_iff {I good : Client (Lending ρ) → Prop} {bad : Client (Lending ρ) → Call → Prop}
    (hcall : ∀ c call, I c → good c →
      I ((perform call).run c).2 ∧ (good ((perform call).run c).2 ↔ ¬ bad c call))
    (houtside : ∀ c k, I c → good c → I (step disturb c (.outside k)) ∧
      good (step disturb c (.outside k))) (hI : I c) (hgood : good c) (steps : List (Step κ)) :
    (∀ before, before <+: steps → good (after disturb before c)) ↔
      ∀ before call, before ++ [.call call] <+: steps → ¬ bad (after disturb before c) call := by
  have hstep (c : Client (Lending ρ)) (x : Step κ) (hI : I c) (hgood : good c) :
      I (step disturb c x) ∧
        (good (step disturb c x) ↔ ¬ ∃ call, x = .call call ∧ bad c call) := by
    cases x with
    | call call =>
      obtain ⟨hI', hiff⟩ := hcall c call hI hgood
      refine ⟨hI', hiff.trans (not_congr ⟨fun hbad => ⟨call, rfl, hbad⟩, ?_⟩)⟩
      rintro ⟨call', heq, hbad⟩
      obtain rfl := Step.call.inj heq
      exact hbad
    | outside k =>
      obtain ⟨hI', hgood'⟩ := houtside c k hI hgood
      exact ⟨hI', iff_of_true hgood' nofun⟩
  refine (foldl_prefixes_iff hstep hI hgood steps).trans ?_
  constructor
  · exact fun hno before call hb hbad => hno before _ hb ⟨call, rfl, hbad⟩
  · intro hno before x hb ⟨call, hx, hbad⟩
    exact hno before call (hx ▸ hb) hbad

theorem covers_after {c : Client (Lending ρ)} (hc : Covers c) (steps : List (Step κ)) :
    Covers (after disturb steps c) := by
  induction steps generalizing c with
  | nil => exact hc
  | cons x steps ih =>
    refine ih ?_
    cases x with
    | call call =>
      obtain ⟨handlers, released, hl⟩ := ends_lends c call
      exact hl.covers hc
    | outside k => exact hc

theorem matches_after_iff {c : Client (Lending ρ)} (hc : Matches c) (steps : List (Step κ)) :
    (∀ before, before <+: steps → Matches (after disturb before c)) ↔
      ∀ before call, before ++ [.call call] <+: steps →
        ¬ Displaces (after disturb before c) call := by
  refine after_iff (I := fun _ => True) disturb (fun c call _ hc => ⟨trivial, ?_⟩)
    (fun c k _ hc => ⟨trivial, hc⟩) trivial hc steps
  obtain ⟨handlers, released, hl⟩ := ends_lends c call
  exact hl.matches_iff hc

end Runs

end Lending

/-! ## The client's end of a connection -/

namespace Socket.ClientEnd

variable {e : ClientEnd} {h k : Handler}

theorem knows_iff : e.knows h = true ↔ ∃ n, e.handlers.get? n = some h := by
  rw [knows, List.contains_iff_mem, Table.mem_values_iff]

theorem numberIn_eq_none_iff : numberIn h e.handlers.entries = none ↔ ¬ e.knows h = true := by
  simp only [numberIn, knows, Table.values, Option.map_eq_none_iff, List.find?_eq_none,
    List.contains_iff_mem, List.mem_map, decide_eq_true_eq, not_exists, not_and]

/-- No handler has two numbers. -/
def OneNumber (e : ClientEnd) : Prop :=
  ∀ n m h, e.handlers.get? n = some h → e.handlers.get? m = some h → n = m

theorem knows_congr {e' : ClientEnd} (he : e'.handlers = e.handlers) : e'.knows h = e.knows h :=
  congrArg (fun t : Table UInt32 Handler => t.values.contains h) he

theorem oneNumber_congr {e' : ClientEnd} (he : e'.handlers = e.handlers) :
    e'.OneNumber ↔ e.OneNumber := by
  rw [OneNumber, he, OneNumber]

/-- A handler with a number keeps it. -/
theorem handlers_number_of_knows (hk : e.knows h = true) : (e.number h).2 = e := by
  unfold number
  cases hn : numberIn h e.handlers.entries with
  | some n => rfl
  | none => exact absurd hk (numberIn_eq_none_iff.mp hn)

/-- A handler without a number gets the next. -/
theorem handlers_number_of_not_knows (hk : ¬ e.knows h = true) :
    (e.number h).2.handlers = e.handlers.set e.nextNumber h := by
  unfold number
  rw [numberIn_eq_none_iff.mpr hk]

/-- A number that is free is taken from no handler. -/
theorem knows_number_iff (hfree : e.knows h = true ∨ e.handlers.get? e.nextNumber = none) :
    (e.number h).2.knows k = true ↔ e.knows k = true ∨ k = h := by
  by_cases hk : e.knows h = true
  · rw [handlers_number_of_knows hk]
    exact ⟨.inl, fun hor => hor.elim id fun heq => heq ▸ hk⟩
  · have hnone := hfree.resolve_left hk
    simp only [knows_iff, handlers_number_of_not_knows hk, Table.get?_set]
    constructor
    · rintro ⟨n, hn⟩
      split at hn
      · exact .inr (Option.some.inj hn).symm
      · exact .inl ⟨n, hn⟩
    · rintro (⟨n, hn⟩ | rfl)
      · have hne : e.nextNumber ≠ n := by
          rintro rfl
          rw [hnone] at hn
          cases hn
        exact ⟨n, by rw [if_neg hne, hn]⟩
      · exact ⟨e.nextNumber, if_pos rfl⟩

/-- A number that is in use is taken from the handler that has it. -/
theorem not_knows_number (he : e.OneNumber) (hk : ¬ e.knows h = true)
    (hn : e.handlers.get? e.nextNumber = some k) : ¬ (e.number h).2.knows k = true := by
  simp only [knows_iff, handlers_number_of_not_knows hk, Table.get?_set]
  rintro ⟨m, hm⟩
  split at hm
  · obtain rfl := Option.some.inj hm
    exact hk (knows_iff.mpr ⟨_, hn⟩)
  · rename_i hne
    exact hne (he _ _ k hn hm)

theorem numbers_singleton (h : Handler) (e : ClientEnd) :
    (numbers [h] e).2 = (e.number h).2 := rfl

theorem oneNumber_number (he : e.OneNumber) : (e.number h).2.OneNumber := by
  by_cases hk : e.knows h = true
  · rwa [handlers_number_of_knows hk]
  · have hno (n : UInt32) : e.handlers.get? n ≠ some h := fun hn => hk (knows_iff.mpr ⟨n, hn⟩)
    unfold OneNumber
    simp only [handlers_number_of_not_knows hk, Table.get?_set]
    intro n m k hn hm
    split at hn <;> split at hm
    · rename_i hn' hm'
      exact hn'.symm.trans hm'
    · exact absurd (Option.some.inj hn ▸ hm) (hno m)
    · exact absurd (Option.some.inj hm ▸ hn) (hno n)
    · exact he n m k hn hm

theorem oneNumber_numbers (he : e.OneNumber) (handlers : List Handler) :
    (numbers handlers e).2.OneNumber := by
  induction handlers generalizing e with
  | nil => exact he
  | cons h handlers ih => exact ih (oneNumber_number he)

theorem knows_release_iff : (e.release h).knows k = true ↔ e.knows k = true ∧ k ≠ h := by
  simp only [knows_iff, release, Table.get?_filter, Option.filter_eq_some_iff]
  simp

theorem oneNumber_release (he : e.OneNumber) : (e.release h).OneNumber := by
  unfold OneNumber
  simp only [release, Table.get?_filter, Option.filter_eq_some_iff]
  exact fun n m k hn hm => he n m k hn.1 hm.1

end Socket.ClientEnd

/-! ## One call over a connection -/

namespace Gateway

open Socket (ClientEnd)

variable {τ : Type} [Transport τ] {n : Nat} {e : ClientEnd}

/-- A transaction gives its handlers numbers, unless the other end is known to be gone. -/
theorem numbers_transactOver {g : Gateway τ} (he : g.clientEnds.get? n = some e) (code : UInt32)
    (envelope : Envelope) :
    ∃ e', ((transactOver n code envelope).run g).2.clientEnds.get? n = some e' ∧
      (e.closed = true ∧ ((transactOver n code envelope).run g).1 = .error .disconnected ∧
          e'.handlers = e.handlers ∨
        e.closed = false ∧ e'.handlers = (e.numbers envelope.objects).2.handlers) := by
  cases hc : e.closed with
  | true =>
    have hrun : (transactOver n code envelope).run g = (.error .disconnected, g) := by
      simp only [transactOver, StateT.run_bind, StateT.run_get, pure_bind, he, hc, if_true]
      rfl
    rw [hrun]
    exact ⟨e, he, .inl ⟨rfl, rfl, rfl⟩⟩
  | false =>
    simp only [transactOver, StateT.run_bind, StateT.run_get, StateT.run_modify, pure_bind, he, hc,
      Bool.false_eq_true, if_false]
    cases (Socket.Message.call code envelope.data (e.numbers envelope.objects).1).frame with
    | none => exact ⟨_, Table.get?_set_self _ _ _, .inr ⟨trivial, rfl⟩⟩
    | some bytes =>
      obtain ⟨incoming, waiting, hread⟩ := (e.numbers envelope.objects).2.readEvents_eq
      simp only [StateT.run_bind]
      generalize (write n bytes).run { g with
        clientEnds := g.clientEnds.set n (e.numbers envelope.objects).2 } = written
      obtain ⟨messages, g₁⟩ := written
      dsimp only [bind]
      cases firstReply messages with
      | some data => exact ⟨_, Table.get?_set_self _ _ _, .inr ⟨trivial, by rw [hread]⟩⟩
      | none => exact ⟨_, Table.get?_set_self _ _ _, .inr ⟨trivial, by rw [hread]⟩⟩

end Gateway

namespace Lending

open Client (perform Call)
open Socket (ClientEnd)

variable {τ : Type} [Transport τ] {n : Nat} {c : Client (Lending (Line τ))} {e : ClientEnd}

/-- The client's end of a connection of the gateway at the end of the line. -/
def clientEnd? (n : Nat) (l : Line τ) : Option ClientEnd := l.gateway.clientEnds.get? n

/-- What letting go of handlers does at the client's end. -/
theorem clientEnd_letGo (released : List Handler) {l : Line τ} (hroute : l.route = .socket n)
    (he : clientEnd? n l = some e) (hone : e.OneNumber) :
    (Client.letGo released l).route = .socket n ∧
      ∃ e', clientEnd? n (Client.letGo released l) = some e' ∧ e'.OneNumber ∧
        ∀ h, e'.knows h = true ↔ e.knows h = true ∧ h ∉ released := by
  unfold Client.letGo
  induction released generalizing l e with
  | nil => exact ⟨hroute, e, he, hone, fun h => by simp⟩
  | cons k released ih =>
    have hend : clientEnd? n (Remote.release k l) = some (e.release k) := by
      show (Gateway.release l.route k l.gateway).clientEnds.get? n = _
      have hget : l.gateway.clientEnds.get? n = some e := he
      simp only [hroute, Gateway.release, hget, Table.get?_set_self]
    obtain ⟨hroute', e', he', hone', hknows⟩ := ih (l := Remote.release k l) hroute hend
      (ClientEnd.oneNumber_release hone)
    refine ⟨hroute', e', he', hone', fun h => ?_⟩
    rw [hknows, ClientEnd.knows_release_iff, List.mem_cons, not_or, and_assoc]

/-- What a request does at the client's end. -/
theorem clientEnd_sent (hroute : c.remote.remote.route = .socket n)
    (he : clientEnd? n c.remote.remote = some e) (q : Request) :
    (c.sent q).remote.route = .socket n ∧ ∃ e', clientEnd? n (c.sent q).remote = some e' ∧
      (e.closed = true ∧ (∃ s, c.heard q = .error s) ∧ e'.handlers = e.handlers ∨
        e.closed = false ∧ e'.handlers = (e.numbers q.handlers).2.handlers) := by
  obtain ⟨e', he', hnumbers⟩ :=
    Gateway.numbers_transactOver he q.opcode.code (q.encode c.descriptor)
  rw [q.objects_encode] at hnumbers
  have htransact : (Gateway.transact c.remote.remote.route q.opcode.code
      (q.encode c.descriptor)).run c.remote.remote.gateway =
      (Gateway.transactOver n q.opcode.code (q.encode c.descriptor)).run
        c.remote.remote.gateway := by
    rw [hroute]
    rfl
  refine ⟨hroute, e', ?_, hnumbers.imp_left fun ⟨hclosed, hanswer, hsame⟩ => ⟨hclosed, ?_, hsame⟩⟩
  · show ((Gateway.transact c.remote.remote.route q.opcode.code (q.encode c.descriptor)).run
      c.remote.remote.gateway).2.clientEnds.get? n = _
    rw [htransact, he']
  · refine ⟨IpcError.disconnected.status, ?_⟩
    have hanswer : (Remote.transact q.opcode.code (q.encode c.descriptor) c.remote).1 =
        .error .disconnected := by
      show ((Gateway.transact c.remote.remote.route q.opcode.code (q.encode c.descriptor)).run
        c.remote.remote.gateway).1 = _
      rw [htransact, hanswer]
    rw [Client.heard, hanswer]

/-- The handlers with a number at the client's end of a connection. -/
def Numbered (n : Nat) (c : Client (Lending (Line τ))) (h : Handler) : Prop :=
  ∃ e, clientEnd? n c.remote.remote = some e ∧ e.knows h = true

/-- A call over an open connection that brings a handler without a number, when the next number is
in use. -/
def Clashes (n : Nat) (c : Client (Lending (Line τ))) (call : Call) : Prop :=
  ∃ e app h, clientEnd? n c.remote.remote = some e ∧ e.closed = false ∧
    call.brings = some (app, h) ∧ ¬ e.knows h = true ∧ e.handlers.get? e.nextNumber ≠ none

/-- A client over a connection. -/
structure Connected (n : Nat) (c : Client (Lending (Line τ))) : Prop where
  route : c.remote.remote.route = .socket n
  oneNumber : ∃ e, clientEnd? n c.remote.remote = some e ∧ e.OneNumber
  covers : Covers c

/-- What is lent is what has a number. -/
def Tracks (n : Nat) (c : Client (Lending (Line τ))) : Prop :=
  ∀ h, Numbered n c h ↔ h ∈ c.remote.lent

omit [Transport τ] in
theorem numbered_iff {h : Handler} (he : clientEnd? n c.remote.remote = some e) :
    Numbered n c h ↔ e.knows h = true := by
  unfold Numbered
  rw [he]
  exact ⟨fun ⟨_, heq, hk⟩ => Option.some.inj heq ▸ hk, fun hk => ⟨e, rfl, hk⟩⟩

omit [Transport τ] in
theorem clashes_iff {call : Call} {app : String} {h : Handler}
    (he : clientEnd? n c.remote.remote = some e) (hb : call.brings = some (app, h)) :
    Clashes n c call ↔
      e.closed = false ∧ ¬ e.knows h = true ∧ e.handlers.get? e.nextNumber ≠ none := by
  unfold Clashes
  rw [he]
  constructor
  · rintro ⟨e, app', h', heq, hopen, hbrings, hclash⟩
    obtain rfl := Option.some.inj heq
    obtain ⟨rfl, rfl⟩ := Prod.mk.inj (Option.some.inj (hb.symm.trans hbrings))
    exact ⟨hopen, hclash⟩
  · exact fun ⟨hopen, hclash⟩ => ⟨e, app, h, rfl, hopen, hb, hclash⟩

omit [Transport τ] in
theorem not_clashes {call : Call} (hb : call.brings = none) : ¬ Clashes n c call := by
  rintro ⟨_, _, _, _, _, hbrings, _⟩
  rw [hb] at hbrings
  cases hbrings

/-- A call that makes one request, if what is lent has a number: that stays so unless the request
takes a number away. -/
theorem tracks_settled {call : Call} {q : Request} {r : Except Status Client.Answer}
    {c' : Client (Lending (Line τ))} (hconnected : Connected n c) (htracks : Tracks n c)
    (hq : call.request? = some q) (hs : Client.Settled c call q r c') :
    Connected n c' ∧ (Tracks n c' ↔ ¬ Clashes n c call) := by
  obtain ⟨e, he, hone⟩ := hconnected.oneNumber
  obtain ⟨released, hremote, haccounts⟩ := hs.remote
  have hlends := lends_of_settled hq hremote haccounts
  obtain ⟨hroute, e₁, he₁, hsent⟩ := clientEnd_sent hconnected.route he q
  have hone₁ : e₁.OneNumber := by
    rcases hsent with ⟨_, _, hsame⟩ | ⟨_, hnumbers⟩
    · exact (ClientEnd.oneNumber_congr hsame).mpr hone
    · exact (ClientEnd.oneNumber_congr hnumbers).mpr (ClientEnd.oneNumber_numbers hone _)
  obtain ⟨hroute', e', he', hone', hknows⟩ := clientEnd_letGo released hroute he₁ hone₁
  rw [← remote_letGo, ← hremote] at hroute' he'
  refine ⟨⟨hroute', ⟨e', he', hone'⟩, hlends.covers hconnected.covers⟩, ?_⟩
  have hiff : Tracks n c' ↔
      ∀ k, k ∉ released → (e₁.knows k = true ↔ e.knows k = true ∨ k ∈ q.handlers) := by
    refine forall_congr' fun k => ?_
    rw [numbered_iff he', hknows, hlends.lent, ← htracks k, numbered_iff he]
    by_cases hk : k ∈ released <;> simp [hk]
  rw [hiff]
  cases hb : call.brings with
  | none =>
    have hnone : q.handlers = [] := by rw [hlends.sends, hb]; rfl
    rw [hnone] at hsent ⊢
    have hsame : e₁.handlers = e.handlers := hsent.elim (fun h => h.2.2) (fun h => h.2)
    refine iff_of_true (fun k _ => ?_) (not_clashes hb)
    simp [ClientEnd.knows_congr hsame]
  | some binding =>
    obtain ⟨app, h⟩ := binding
    have hbrings : q.handlers = [h] := by rw [hlends.sends, hb]; rfl
    rw [clashes_iff he hb]
    rcases hsent with ⟨hclosed, ⟨s, hheard⟩, hsame⟩ | ⟨hopen, hnumbers⟩
    · -- The call fails, and the handler that it brings is released unless it is held already.
      have hr : r = .error s := by rw [hs.result, hheard]; rfl
      refine iff_of_true (fun k hk => ?_) fun hclash => ?_
      · rw [ClientEnd.knows_congr hsame]
        refine ⟨.inl, fun hor => hor.elim id fun hm => ?_⟩
        have hheld' : c'.holds k = true := by
          refine (haccounts.holds k).mpr ⟨.inr hm, hk, ?_⟩
          rintro ⟨⟨a, ha⟩, _⟩
          rw [hr] at ha
          cases ha
        have hheld : c.holds k = true := haccounts.refused k ⟨s, hr⟩ hheld'
        exact (numbered_iff he).mp ((htracks k).mpr (hconnected.covers k hheld))
      · rw [hclosed] at hclash
        cases hclash.1
    · rw [hbrings, ClientEnd.numbers_singleton] at hnumbers
      rw [hbrings]
      have hsame (k : Handler) : e₁.knows k = (e.number h).2.knows k :=
        ClientEnd.knows_congr hnumbers
      by_cases hfree : e.knows h = true ∨ e.handlers.get? e.nextNumber = none
      · refine iff_of_true (fun k _ => ?_) fun ⟨_, hno, hused⟩ => hfree.elim hno hused
        rw [hsame, ClientEnd.knows_number_iff hfree, List.mem_singleton]
      · obtain ⟨hno, hused⟩ := not_or.mp hfree
        obtain ⟨k, hk⟩ := Option.ne_none_iff_exists'.mp hused
        have hknown : e.knows k = true := ClientEnd.knows_iff.mpr ⟨_, hk⟩
        have hkept : k ∉ released := by
          intro hm
          rcases haccounts.own k hm with hnil | hmem
          · rw [hbrings] at hnil
            cases hnil
          · rw [hbrings, List.mem_singleton] at hmem
            exact hno (hmem ▸ hknown)
        refine iff_of_false (fun hall => ?_) (not_not_intro ⟨hopen, hno, hused⟩)
        have hlost : ¬ e₁.knows k = true := hsame k ▸ ClientEnd.not_knows_number hone hno hk
        exact hlost ((hall k hkept).mpr (.inl hknown))

/-- A request that cannot change the handlers lends none and leaves the numbers alone. -/
theorem keeps_tracked (q : Request) (hbinds : q.opcode.binds = false) :
    Keeps (fun c' : Client (Lending (Line τ)) =>
      (c'.bindings = c.bindings ∧ c'.remote.lent = c.remote.lent) ∧
        c'.remote.remote.route = .socket n ∧
        ∃ e', clientEnd? n c'.remote.remote = some e' ∧ e'.handlers = e.handlers)
      (Client.call q) := by
  intro c' ⟨hsame, hroute, e', he', hhandlers⟩
  have hlent := keeps_lent q hbinds c' hsame
  obtain ⟨hroute', e₁, he₁, hsent⟩ := clientEnd_sent hroute he' q
  rw [Request.handlers_of_not_binds hbinds] at hsent
  have hsame₁ : e₁.handlers = e'.handlers := hsent.elim (fun h => h.2.2) fun h => h.2
  exact Client.ends_call.mpr ⟨hlent, hroute', e₁, he₁, hsame₁.trans hhandlers⟩

/-- Over a connection, what is lent goes on having a number unless a number in use is given out. -/
theorem tracks_perform (hconnected : Connected n c) (htracks : Tracks n c) (call : Call) :
    Ends (perform call) c fun _ c' =>
      Connected n c' ∧ (Tracks n c' ↔ ¬ Clashes n c call) := by
  cases hq : call.request? with
  | some q =>
    exact (Client.settles_perform hq).mono fun r c' hs =>
      tracks_settled hconnected htracks hq hs
  | none =>
    obtain ⟨hbinds, hbrings⟩ := Call.calm_of_request? hq
    obtain ⟨e, he, hone⟩ := hconnected.oneNumber
    refine (Client.keeps_perform keeps_tracked hbinds c
      ⟨⟨rfl, rfl⟩, hconnected.route, e, he, rfl⟩).mono fun r c' hkept => ?_
    obtain ⟨⟨ht, hl⟩, hroute, e', he', hhandlers⟩ := hkept
    refine ⟨⟨hroute, ⟨e', he', (ClientEnd.oneNumber_congr hhandlers).mpr hone⟩, fun h hh => ?_⟩,
      iff_of_true (fun h => ?_) (not_clashes hbrings)⟩
    · rw [hl]
      exact hconnected.covers h (Client.holds_congr ht h ▸ hh)
    · rw [numbered_iff he', ClientEnd.knows_congr hhandlers, hl, ← htracks h, numbered_iff he]

/-- What may have become of a gateway and a connection of it between two calls. -/
structure Elsewhere (τ : Type) where
  gateway : Gateway τ
  closed : Bool
  delivering : Bool
  incoming : List (UInt32 × Applet.Event)
  waiting : List (UInt32 × Applet.Event)

/-- The client's end of a connection afterwards. -/
def Elsewhere.clientEnd (x : Elsewhere τ) (e : ClientEnd) : ClientEnd :=
  { e with
    closed := x.closed, delivering := x.delivering, incoming := x.incoming, waiting := x.waiting }

/-- Whatever happens elsewhere leaves the handlers at the client's end and their numbers alone. -/
def Elsewhere.disturb (n : Nat) (x : Elsewhere τ) (l : Line τ) : Line τ :=
  { l with gateway := { x.gateway with
      clientEnds := match clientEnd? n l with
        | some e => x.gateway.clientEnds.set n (x.clientEnd e)
        | none => x.gateway.clientEnds } }

omit [Transport τ] in
theorem clientEnd_disturb {l : Line τ} (he : clientEnd? n l = some e) (x : Elsewhere τ) :
    clientEnd? n (x.disturb n l) = some (x.clientEnd e) := by
  unfold Elsewhere.disturb
  rw [he]
  exact Table.get?_set_self _ _ _

/-- A line over a connection of a gateway whose client has not sent anything yet. -/
def joined (n : Nat) (g : Gateway τ) : Line τ :=
  { gateway := { g with clientEnds := g.clientEnds.set n {} }, route := .socket n }

theorem tracks_after_iff (hconnected : Connected n c) (htracks : Tracks n c)
    (steps : List (Step (Elsewhere τ))) :
    (∀ before, before <+: steps → Tracks n (after (Elsewhere.disturb n) before c)) ↔
      ∀ before call, before ++ [.call call] <+: steps →
        ¬ Clashes n (after (Elsewhere.disturb n) before c) call := by
  have hcall (c : Client (Lending (Line τ))) (call : Call) (hc : Connected n c)
      (ht : Tracks n c) : Connected n ((perform call).run c).2 ∧
        (Tracks n ((perform call).run c).2 ↔ ¬ Clashes n c call) := tracks_perform hc ht call
  refine after_iff (Elsewhere.disturb n) hcall (fun c x hc ht => ?_) hconnected htracks steps
  obtain ⟨e, he, hone⟩ := hc.oneNumber
  have he' := clientEnd_disturb he x
  refine ⟨⟨hc.route, ⟨_, he', (ClientEnd.oneNumber_congr rfl).mpr hone⟩, hc.covers⟩, fun h => ?_⟩
  refine Iff.trans ?_ (ht h)
  have hafter := numbered_iff (c := step (Elsewhere.disturb n) c (.outside x)) (h := h) he'
  rw [numbered_iff he]
  exact hafter

/-! ## All that is lent -/

/-- Whatever a remote answers and whatever happens to it between the calls, a client loses no
handler that it holds, and all that are lent are held exactly if no call displaces a handler. Over
a connection, those that are lent are those with a number at the client's end exactly if no call
clashes. -/
theorem handlers_lent {ρ κ : Type} [Remote ρ] (disturb : κ → ρ → ρ) (remote : ρ)
    (descriptor : String) (initialLength : UInt32) (steps : List (Step κ)) :
    let c := start remote descriptor initialLength
    ((∀ before, before <+: steps → Covers (after disturb before c)) ∧
      ((∀ before, before <+: steps → Matches (after disturb before c)) ↔
        ∀ before call, before ++ [.call call] <+: steps →
          ¬ Displaces (after disturb before c) call)) ∧
    ∀ {τ : Type} [Transport τ] (g : Gateway τ) (n : Nat) (steps : List (Step (Elsewhere τ))),
      let c := start (joined n g) descriptor initialLength
      (∀ before, before <+: steps → Tracks n (after (Elsewhere.disturb n) before c)) ↔
        ∀ before call, before ++ [.call call] <+: steps →
          ¬ Clashes n (after (Elsewhere.disturb n) before c) call := by
  have hnot (l : List Handler) (h : Handler) (hl : l = []) : ¬ l.contains h = true := by
    subst hl
    exact Bool.false_ne_true
  intro c
  constructor
  · have hcovers : Covers c := fun h hh => absurd hh (hnot _ h rfl)
    have hmatches : Matches c := fun h => iff_of_false List.not_mem_nil (hnot _ h rfl)
    exact ⟨fun before _ => covers_after disturb hcovers before,
      matches_after_iff disturb hmatches steps⟩
  · intro τ _ g n steps c
    have he : clientEnd? n c.remote.remote = some {} := Table.get?_set_self _ _ _
    have hone : ClientEnd.OneNumber {} := fun _ _ _ h => nomatch h
    have hcovers : Covers c := fun h hh => absurd hh (hnot _ h rfl)
    refine tracks_after_iff ⟨rfl, ⟨_, he, hone⟩, hcovers⟩ (fun h => ?_) steps
    rw [numbered_iff he]
    exact iff_of_false (hnot _ h rfl) List.not_mem_nil

/-- A dispatcher after somebody else had an operation performed. -/
def meanwhile {σ : Type} [Operator σ] (o : Operation) (r : Direct σ) : Direct σ :=
  { r with dispatcher := { r.dispatcher with
      operator := ((Operator.perform o).run r.dispatcher.operator).2 } }

/-- Somebody else unbinds the handler of an app, and the client binds another. The first handler is
not released. -/
theorem displaced_stays_lent :
    ∃ (s : Service Channel) (c₀ c : Client (Lending (Direct (Service Channel))))
        (steps : List (Step Operation)),
      s = { link := { transport := { device := .ofApps ["a"] } }, options := {} } ∧
      c₀ = start ⟨{ operator := s, descriptor := "i" }, ⟨.self, 0⟩⟩ "i" 64 ∧
      steps = [.call .init, .call (.registerEvents "a" (.own "h")),
        .outside (.unregisterEvents "a")] ∧
      c = after meanwhile steps c₀ ∧ Displaces c (.registerEvents "a" (.own "k")) ∧
      ¬ ∀ before, before <+: steps ++ [.call (.registerEvents "a" (.own "k"))] →
        Matches (after meanwhile before c₀) := by
  refine ⟨_, _, _, _, rfl, rfl, rfl, rfl, ?_⟩
  suffices hdisplaces : Displaces _ (.registerEvents "a" (.own "k")) from
    ⟨hdisplaces, fun hall => (handlers_lent _ _ _ _ _).1.2.mp hall _ _ List.prefix_rfl hdisplaces⟩
  refine ⟨exists_of_isOk (by decide +kernel), .own "h", "a", .own "k", rfl, by decide,
    by decide +kernel, ?_⟩
  -- Only the one app has a handler noted.
  intro other hne
  have hget (t : Table String Handler) (ht : t.entries = [("a", .own "h")]) :
      t.get? other ≠ some (.own "h") := by
    rw [Table.get?, ht]
    simp [Table.lookup, Ne.symm hne]
  exact hget _ (by decide +kernel)

end Lending

end AppletGateway
