import AppletGateway.Proofs.Courses
import AppletGateway.Proofs.Dispatching
import AppletGateway.Proofs.Runs
import Mathlib.Data.List.Basic

/-!
# What a reported success stands for

A failure of the co-processor keeps its code, whatever it is. The code 0 is that of success: an
operation whose last request is answered by a failure with this code fails with the status of
success, and the reply of the dispatcher to it is an empty one that reports success. Nothing else
has this effect. In particular the failures of the link, of the checks and of the registry never
pass for a success.

Results:
* `Service.speaks_call`: how the answer to a request decides what an operation ends with.
* `Service.success_iff`: an operation fails with the status of success, and a reply reports success
  without the answer of its call, exactly in this case.
-/

namespace AppletGateway

/-! ## Codes -/

theorem Status.ofCode_eq_success_iff (code : UInt32) : ofCode code = .success ↔ code = 0 := by
  constructor
  · intro h
    rw [← code_ofCode code, h]
    rfl
  · rintro rfl
    decide

theorem LinkError.status_ne_success (e : LinkError) : e.status ≠ .success := by
  cases e <;> nofun

namespace Applet.Reply

variable {r : Applet.Reply}

/-- A failure with the code of success. -/
abbrev falseSuccess : Applet.Reply := failed 0

theorem failed_eq_falseSuccess {α : Type} (code : UInt32) :
    (.error (.ofCode code) : Except Status α) = .error .success ↔ failed code = falseSuccess := by
  rw [Except.error.injEq, failed.injEq, Status.ofCode_eq_success_iff]

theorem asDone_eq_success_iff : r.asDone = .error .success ↔ r = falseSuccess := by
  cases r with
  | failed code => exact failed_eq_falseSuccess code
  | _ => simp [asDone]

theorem asHandle_eq_success_iff : r.asHandle = .error .success ↔ r = falseSuccess := by
  cases r with
  | failed code => exact failed_eq_falseSuccess code
  | _ => simp [asHandle]

theorem asValue_eq_success_iff : r.asValue = .error .success ↔ r = falseSuccess := by
  cases r with
  | failed code => exact failed_eq_falseSuccess code
  | _ => simp [asValue]

theorem asData_eq_success_iff {capacity : UInt32} :
    r.asData capacity = .error .success ↔ r = falseSuccess := by
  cases r with
  | failed code => exact failed_eq_falseSuccess code
  | _ => simp [asData]

theorem asOtp_eq_success_iff {otpCapacity tokenCapacity : UInt32} :
    r.asOtp otpCapacity tokenCapacity = .error .success ↔ r = falseSuccess := by
  cases r with
  | failed code => exact failed_eq_falseSuccess code
  | _ => simp [asOtp]

end Applet.Reply

/-- Whether an operation goes by the answers of the co-processor. -/
def Operation.awaits : Operation → Bool
  | .init | .deinit | .version | .appInstance _ | .unregisterEvents _ | .stopInstance .. => false
  | _ => true

/-! ## The last answer -/

/-- The last answer is a failure with the code of success. -/
def Link.Misreports (talk : Talk) : Prop :=
  talk.getLast?.map Prod.snd = some (.ok .falseSuccess)

namespace Link

variable {talk talk' : Talk}

theorem not_misreports_nil : ¬ Misreports [] := nofun

/-- Only the last answer matters. -/
theorem misreports_append (h : talk' ≠ []) : Misreports (talk ++ talk') ↔ Misreports talk' := by
  rw [Misreports, List.getLast?_append_of_ne_nil talk h]
  exact Iff.rfl

end Link

namespace Service

open Link (Talk Converses Misreports)

variable {τ : Type} [Transport τ] {α β : Type} {o : Operation} {app : String} {l l' l'' : Link τ}
  {talk talk' : Talk}

/-! ## How a result comes about -/

/-- On the way of the link from `l` to `l'` the operation has come to the result `r` by these
requests and their answers. Besides what it is there to ask for it has asked for sessions and
subscriptions only, and if the last request has no answer, that is what it fails with. -/
structure Concluded (o : Operation) (l : Link τ) (talk : Talk) (r : Except Status α)
    (l' : Link τ) : Prop where
  conversed : Converses l talk l'
  own : ∀ e ∈ talk, e.1.seats = true ∨ o.request? = some e.1
  unanswered : ∀ q e, talk.getLast? = some (q, .error e) → r = .error e.status

/-- The result is a failure with the status of success exactly if the last answer is one with its
code. -/
structure Decided (o : Operation) (l : Link τ) (talk : Talk) (r : Except Status α)
    (l' : Link τ) : Prop extends Concluded o l talk r l' where
  success : r = .error .success ↔ Misreports talk

theorem ok_ne_success (a : α) : (.ok a : Except Status α) ≠ .error .success := by
  intro h
  cases h

theorem error_ne_success {e : Status} (he : e ≠ .success) :
    (.error e : Except Status α) ≠ .error .success :=
  fun h => he (Except.error.inj h)

/-- What comes to a result without a request, does not fail with the status of success. -/
theorem decided_nil {r : Except Status α} (hr : r ≠ .error .success) (l : Link τ) :
    Decided o l [] r l :=
  ⟨⟨.nil l, nofun, nofun⟩, iff_of_false hr Link.not_misreports_nil⟩

theorem Decided.of_error {e : Status} (h : Decided o l talk (.error e : Except Status α) l') :
    Decided o l talk (.error e : Except Status β) l' where
  conversed := h.conversed
  own := h.own
  unanswered q e' hlast := congrArg Except.error (Except.error.inj (h.unanswered q e' hlast))
  success := by rw [← h.success, Except.error.injEq, Except.error.injEq]

/-- Requests before the last one have no part in the result. -/
theorem Decided.after {r : Except Status α} (h : Decided o l' talk' r l'')
    (hc : Converses l talk l') (hown : ∀ e ∈ talk, e.1.seats = true ∨ o.request? = some e.1)
    (hlast : talk' = [] → ¬ Misreports talk ∧ ∀ q e, talk.getLast? ≠ some (q, .error e)) :
    Decided o l (talk ++ talk') r l'' := by
  refine ⟨⟨hc.append h.conversed, ?_, fun q e he => ?_⟩, ?_⟩
  · intro e he
    exact (List.mem_append.mp he).elim (hown e) (h.own e)
  · by_cases hnil : talk' = []
    · subst hnil
      rw [List.append_nil] at he
      exact absurd he ((hlast rfl).2 q e)
    · rw [List.getLast?_append_of_ne_nil _ hnil] at he
      exact h.unanswered q e he
  · rw [h.success]
    by_cases hnil : talk' = []
    · subst hnil
      rw [List.append_nil]
      exact iff_of_false Link.not_misreports_nil (hlast rfl).1
    · exact (Link.misreports_append hnil).symm

/-! ## Steps and their answers -/

/-- However the step ends, the requests that it makes decide the result. -/
def Settles (o : Operation) (x : OnRow τ α) : Prop :=
  ∀ t, Ends x t fun r t' => ∃ talk, Decided o t.link talk r t'.link

/-- The step settles and has made a request at all. -/
def Speaks (o : Operation) (x : OnRow τ α) : Prop :=
  ∀ t, Ends x t fun r t' => ∃ talk, talk ≠ [] ∧ Decided o t.link talk r t'.link

/-- The step ends well whatever it is answered. -/
def Mutters (o : Operation) (x : OnRow τ α) : Prop :=
  ∀ t, Ends x t fun r t' => (∃ a, r = .ok a) ∧ ∃ talk, Converses t.link talk t'.link ∧
    ∀ e ∈ talk, e.1.seats = true ∨ o.request? = some e.1

theorem Speaks.settles {x : OnRow τ α} (h : Speaks o x) : Settles o x :=
  fun t => (h t).mono fun _ _ ⟨talk, _, hd⟩ => ⟨talk, hd⟩

theorem settles_pure (a : α) : Settles (τ := τ) o (pure a) :=
  fun t => ⟨[], decided_nil (ok_ne_success a) t.link⟩

theorem settles_throw {e : Status} (he : e ≠ .success) :
    Settles (τ := τ) (α := α) o (throw e) :=
  fun t => ⟨[], decided_nil (error_ne_success he) t.link⟩

theorem settles_ofExcept {x : Except Status α} (hx : x ≠ .error .success) :
    Settles (τ := τ) o (ofExcept x) := by
  cases x with
  | ok a => exact settles_pure a
  | error e => exact settles_throw fun he => hx (by rw [he])

theorem Settles.bind {x : OnRow τ α} {f : α → OnRow τ β} (hx : Settles o x)
    (hf : ∀ a, Settles o (f a)) : Settles o (x >>= f) := by
  intro t
  rw [ends_bind]
  refine (hx t).mono fun r t' ⟨talk, hd⟩ => ?_
  cases r with
  | error e => exact ⟨talk, hd.of_error⟩
  | ok a =>
    rw [andThen_ok]
    refine (hf a t').mono fun r t'' ⟨talk', hd'⟩ => ⟨talk ++ talk', ?_⟩
    refine hd'.after hd.conversed hd.own fun _ => ⟨?_, fun q e hlast => ?_⟩
    · exact fun hmis => nomatch hd.success.mpr hmis
    · exact nomatch hd.unanswered q e hlast

theorem Mutters.bind {x : OnRow τ α} {f : α → OnRow τ β} (hx : Mutters o x)
    (hf : ∀ a, Speaks o (f a)) : Speaks o (x >>= f) := by
  intro t
  rw [ends_bind]
  refine (hx t).mono fun r t' ⟨⟨a, ha⟩, talk, hc, hown⟩ => ?_
  subst ha
  rw [andThen_ok]
  refine (hf a t').mono fun r t'' ⟨talk', hne, hd'⟩ => ⟨talk ++ talk', ?_, ?_⟩
  · exact fun h => hne (List.append_eq_nil_iff.mp h).2
  · exact hd'.after hc hown fun hnil => absurd hnil hne

theorem settles_get {f : Turn τ → OnRow τ β} (hf : ∀ t, Settles o (f t)) :
    Settles o (get >>= f) := fun t => ends_look (hf t t)

theorem speaks_get {f : Turn τ → OnRow τ β} (hf : ∀ t, Speaks o (f t)) :
    Speaks o (get >>= f) := fun t => ends_look (hf t t)

theorem settles_ite {c : Prop} [Decidable c] {x y : OnRow τ α} (hx : Settles o x)
    (hy : Settles o y) : Settles o (if c then x else y) := by
  split
  · exact hx
  · exact hy

theorem settles_reject {c : Prop} [Decidable c] {e : Status} (he : e ≠ .success)
    {f : β → OnRow τ α} {x : OnRow τ α} (hx : Settles o x) :
    Settles o (if c then throw e >>= f else x) :=
  fun t => ends_reject ⟨[], decided_nil (error_ne_success he) t.link⟩ fun _ => hx t

theorem settles_modifyRow (change : Row → Row) : Settles (τ := τ) o (modifyRow change) :=
  fun t => settles_pure () t

theorem settles_changeRow {change : Row → Except Status Row}
    (h : ∀ row, change row ≠ .error .success) : Settles (τ := τ) o (changeRow change) :=
  settles_get fun t => (settles_ofExcept (h t.row)).bind fun _ => settles_modifyRow _

theorem settles_issueToken (owner : ProcessId) : Settles (τ := τ) o (issueToken owner) :=
  fun t => ⟨[], decided_nil (ok_ne_success _) t.link⟩

section

variable {q : Applet.Request} (hq : q.seats = true ∨ o.request? = some q)
include hq

/-- A request settles with what follows it, if that fails with the status of success at once for an
answer with this code. -/
theorem speaks_call {f : Applet.Reply → OnRow τ α}
    (hfalse : ∀ t, Ends (f .falseSuccess) t fun r t' => r = .error .success ∧ t'.link = t.link)
    (hf : ∀ reply, reply ≠ .falseSuccess → Settles o (f reply)) : Speaks o (call q >>= f) := by
  intro t
  have hown : ∀ e ∈ [(q, t.answer q)], e.1.seats = true ∨ o.request? = some e.1 :=
    List.forall_mem_singleton.mpr hq
  have hasked : Converses t.link [(q, t.answer q)] (t.after q).link := .single t.link q
  refine ends_call_bind (fun e ha => ?_) fun reply ha => ?_
  · rw [ha] at hown hasked
    refine ⟨_, List.cons_ne_nil _ _, ⟨⟨hasked, hown, ?_⟩, iff_of_false ?_ nofun⟩⟩
    · rintro _ _ ⟨⟩
      rfl
    · exact error_ne_success e.status_ne_success
  · rw [ha] at hown hasked
    by_cases hreply : reply = .falseSuccess
    · subst hreply
      refine (hfalse (t.after q)).mono fun r t' h => ?_
      rw [h.1, h.2]
      exact ⟨_, List.cons_ne_nil _ _, ⟨⟨hasked, hown, nofun⟩, iff_of_true rfl rfl⟩⟩
    · refine (hf reply hreply (t.after q)).mono fun r t' ⟨talk, hd⟩ => ?_
      refine ⟨_, List.cons_ne_nil _ _, hd.after hasked hown fun _ => ⟨fun hmis => hreply ?_, nofun⟩⟩
      exact Except.ok.inj (Option.some.inj hmis)

/-- A request settles if its answer is read and what follows settles. -/
theorem speaks_reply {read : Applet.Reply → Except Status α} {f : α → OnRow τ β}
    (hread : ∀ reply, read reply = .error .success ↔ reply = .falseSuccess)
    (hf : ∀ a, Settles o (f a)) :
    Speaks o (do
      let a ← ofExcept (read (← call q))
      f a) := by
  refine speaks_call hq (fun t => ?_) fun reply hreply => ?_
  · rw [(hread _).mpr rfl]
    exact ⟨rfl, rfl⟩
  · exact (settles_ofExcept fun h => hreply ((hread reply).mp h)).bind hf

theorem speaks_reply_last {read : Applet.Reply → Except Status α}
    (hread : ∀ reply, read reply = .error .success ↔ reply = .falseSuccess) :
    Speaks (τ := τ) o (do ofExcept (read (← call q))) := by
  have h := speaks_reply (τ := τ) (f := pure) hq hread settles_pure
  simpa only [bind_pure] using h

theorem mutters_callQuietly : Mutters (τ := τ) o (callQuietly q) := fun t =>
  ends_callQuietly.mpr ⟨⟨(), rfl⟩, _, .single t.link q, List.forall_mem_singleton.mpr hq⟩

end

/-! ## The parts of tasks -/

theorem mutters_pure (a : α) : Mutters (τ := τ) o (pure a) :=
  fun t => ⟨⟨a, rfl⟩, [], .nil t.link, nofun⟩

theorem mutters_modifyRow (change : Row → Row) : Mutters (τ := τ) o (modifyRow change) :=
  fun t => ⟨⟨(), rfl⟩, [], .nil t.link, nofun⟩

theorem Mutters.seq {x : OnRow τ α} {f : α → OnRow τ β} (hx : Mutters o x)
    (hf : ∀ a, Mutters o (f a)) : Mutters o (x >>= f) := by
  intro t
  rw [ends_bind]
  refine (hx t).mono fun r t' ⟨⟨a, ha⟩, talk, hc, hown⟩ => ?_
  subst ha
  rw [andThen_ok]
  refine (hf a t').mono fun r t'' ⟨hr, talk', hc', hown'⟩ => ⟨hr, talk ++ talk', hc.append hc', ?_⟩
  exact fun e he => (List.mem_append.mp he).elim (hown e) (hown' e)

theorem Mutters.ne_success {x : OnRow τ α} (h : Mutters o x) (t : Turn τ) :
    Ends x t fun r _ => r ≠ .error .success := by
  refine (h t).mono fun r t' ⟨⟨a, ha⟩, _⟩ => ?_
  rw [ha]
  exact ok_ne_success a

theorem mutters_get {f : Turn τ → OnRow τ β} (hf : ∀ t, Mutters o (f t)) :
    Mutters o (get >>= f) := fun t => ends_look (hf t t)

theorem mutters_ite {c : Prop} [Decidable c] {x y : OnRow τ α} (hx : Mutters o x)
    (hy : Mutters o y) : Mutters o (if c then x else y) := by
  split
  · exact hx
  · exact hy

theorem mutters_dropStale : Mutters (τ := τ) o dropStale :=
  mutters_get fun _ => mutters_ite (mutters_modifyRow _) (mutters_pure ())

theorem mutters_closeQuietly : Mutters (τ := τ) o closeQuietly :=
  mutters_get fun _ => mutters_ite
    ((mutters_callQuietly (.inl rfl)).seq fun _ => mutters_modifyRow _) (mutters_pure ())

theorem mutters_unsubscribeQuietly : Mutters (τ := τ) o unsubscribeQuietly :=
  mutters_get fun _ => mutters_ite (mutters_callQuietly (.inl rfl)) (mutters_pure ())

theorem mutters_makeExclusive : Mutters (τ := τ) o makeExclusive :=
  mutters_get fun _ => mutters_ite (mutters_closeQuietly.seq fun _ => mutters_modifyRow _)
    (mutters_modifyRow _)

theorem speaks_subscribe : Speaks (τ := τ) o subscribe :=
  speaks_get fun _ => speaks_reply_last (.inl rfl) fun _ => Applet.Reply.asDone_eq_success_iff

theorem settles_dropStale : Settles (τ := τ) o dropStale :=
  settles_get fun _ => settles_ite (settles_modifyRow _) (settles_pure ())

/-- Opening a session that is open already makes no request. -/
theorem settles_ensureLoaded : Settles (τ := τ) o ensureLoaded := by
  refine settles_dropStale.bind fun _ => settles_get fun t => settles_ite (settles_pure ()) ?_
  refine (speaks_reply (.inl rfl) (fun _ => Applet.Reply.asDone_eq_success_iff)
    fun _ => ?_).settles
  exact (settles_modifyRow _).bind fun _ => settles_ite speaks_subscribe.settles (settles_pure ())

/-- If a request follows it is the last one in any case. -/
theorem speaks_ensureLoaded_bind {f : Unit → OnRow τ α} (hf : Speaks o (f ())) :
    Speaks o (ensureLoaded >>= f) := by
  simp only [ensureLoaded, bind_assoc]
  refine mutters_dropStale.bind fun _ => speaks_get fun t => ?_
  split
  · rw [pure_bind]
    exact hf
  · simp only [bind_assoc]
    refine speaks_reply (.inl rfl) (fun _ => Applet.Reply.asDone_eq_success_iff) fun _ => ?_
    refine (settles_modifyRow _).bind fun _ => ?_
    exact (settles_ite speaks_subscribe.settles (settles_pure ())).bind fun _ => hf.settles

theorem expectProvisioning_ne_success (row : Row) (handle : UInt32) :
    row.expectProvisioning handle ≠ .error .success := by
  unfold Row.expectProvisioning
  split <;> nofun

/-- The handle that the caller gives is the one that is sent. -/
theorem settles_sessionHandle_bind {handle : Option UInt32} {f : UInt32 → OnRow τ α}
    (hf : Settles o (f (handle.getD Applet.noHandle))) :
    Settles o (sessionHandle handle >>= f) := by
  cases handle with
  | none =>
    rw [sessionHandle, pure_bind]
    exact hf
  | some handle =>
    rw [sessionHandle]
    simp only [bind_assoc, pure_bind]
    exact settles_get fun t =>
      (settles_ofExcept (expectProvisioning_ne_success t.row handle)).bind fun _ => hf

theorem checkBind_ne_success (r : Row) (h : Handler) : r.checkBind h ≠ .error .success := by
  unfold Row.checkBind
  split
  · nofun
  · split <;> nofun

theorem bind_ne_success (h : Handler) (r : Row) : r.bind h ≠ .error .success := by
  have hcheck := checkBind_ne_success r h
  unfold Row.bind
  rcases hc : r.checkBind h with e | (_ | _)
  · rw [hc] at hcheck
    exact fun h => hcheck (congrArg Except.error (Except.error.inj h))
  · nofun
  · nofun

/-- Binding a handler ends with a request, whatever has been closed before. -/
theorem speaks_bindHandler {x : OnRow τ α} (hx : Settles o x) : Speaks o (do
    makeExclusive
    ensureLoaded
    subscribe
    x) := by
  refine mutters_makeExclusive.bind fun _ => speaks_ensureLoaded_bind ?_
  simp only [subscribe, bind_assoc]
  exact speaks_get fun _ =>
    speaks_reply (.inl rfl) (fun _ => Applet.Reply.asDone_eq_success_iff) fun _ => hx

/-! ## Tasks -/

omit [Transport τ] in
/-- What an inquiry reads is a failure with the status of success only if the reply has its code. -/
theorem Inquiry.read_eq_success_iff {handle : Option UInt32} {request : UInt32 → Applet.Request}
    {read : Applet.Reply → Except Status o.Answer} (h : Inquiry o app handle request read)
    (reply : Applet.Reply) : read reply = .error .success ↔ reply = .falseSuccess := by
  cases h with
  | sendData => exact Applet.Reply.asDone_eq_success_iff
  | receiveData | sendAndReceive | capabilities => exact Applet.Reply.asData_eq_success_iff
  | getOtp _ request =>
    have hotp : reply.asOtp request.otpCapacity request.tokenCapacity = .error .success ↔ _ :=
      Applet.Reply.asOtp_eq_success_iff
    rw [← hotp, otpOf]
    cases reply.asOtp request.otpCapacity request.tokenCapacity with
    | error e =>
      show (Except.error e : Except Status (Negotiated Otp)) = .error .success ↔ _
      rw [Except.error.injEq, Except.error.injEq]
    | ok out => exact iff_of_false (ok_ne_success _) (ok_ne_success _)
  | otpsStatus => exact Applet.Reply.asValue_eq_success_iff

/-- The requests of an operation that goes by the answers decide what its task comes to. -/
theorem Task.settles {x : OnRow τ o.Answer} (h : Task o app x) (ho : o.awaits = true) :
    Settles o x := by
  cases h with
  | inquiry h =>
    exact settles_sessionHandle_bind <| settles_ensureLoaded.bind fun _ =>
      (speaks_reply_last (.inr h.request?) h.read_eq_success_iff).settles
  | startProvisioning =>
    refine settles_get fun t => settles_reject (e := .invalidRequest) nofun
      (settles_ensureLoaded.bind fun _ => ?_)
    refine (speaks_reply (.inr rfl) (fun _ => Applet.Reply.asHandle_eq_success_iff)
      fun handle => ?_).settles
    refine (settles_changeRow fun row => ?_).bind fun _ => settles_pure handle
    unfold Row.beginProvisioning
    split <;> nofun
  | endProvisioning _ handle capacity =>
    refine settles_get fun t =>
      (settles_ofExcept (expectProvisioning_ne_success t.row handle)).bind fun _ => ?_
    refine (speaks_call (.inr rfl) (fun t => ⟨rfl, rfl⟩) fun reply hreply => ?_).settles
    have hdata : reply.asData capacity ≠ .error .success :=
      mt Applet.Reply.asData_eq_success_iff.mp hreply
    rcases hd : reply.asData capacity with e | (token | required)
    · have he : e ≠ .success := fun h => hdata (hd.trans (congrArg Except.error h))
      exact settles_ite ((settles_modifyRow _).bind fun _ => settles_throw he) (settles_throw he)
    · exact (settles_modifyRow _).bind fun _ => settles_pure _
    · exact settles_pure _
  | install =>
    exact (speaks_reply (.inr rfl) (fun _ => Applet.Reply.asDone_eq_success_iff)
      fun _ => settles_ensureLoaded).settles
  | uninstall =>
    refine (mutters_unsubscribeQuietly.bind fun _ => mutters_closeQuietly.bind fun _ => ?_).settles
    exact speaks_reply (.inl rfl) (fun _ => Applet.Reply.asDone_eq_success_iff)
      fun _ => settles_modifyRow _
  | registerEvents _ handler =>
    refine settles_get fun t => (settles_ofExcept (checkBind_ne_success _ _)).bind fun bound => ?_
    refine settles_ite (settles_pure ()) (Speaks.settles ?_)
    exact speaks_bindHandler (settles_changeRow (bind_ne_success handler))
  | startInstance =>
    refine settles_get fun t => settles_reject (e := .instanceAlreadyAvailable) nofun ?_
    exact settles_ensureLoaded.bind fun _ => settles_issueToken _
  | startListening _ _ handler =>
    refine settles_get fun t => settles_reject (e := .instanceAlreadyAvailable) nofun ?_
    refine settles_get fun t => (settles_ofExcept (checkBind_ne_success _ _)).bind fun _ => ?_
    exact (speaks_bindHandler ((settles_changeRow (bind_ne_success handler)).bind fun _ =>
      settles_issueToken _)).settles
  | appInstance | unregisterEvents | stopInstance => cases ho

variable {s : Service τ}

/-- An operation that goes by the answers of the co-processor. -/
theorem decided_perform (ho : o.awaits = true) :
    Ends (perform o) s fun r s' => ∃ talk, Decided o s.link talk r s'.link := by
  refine ends_perform_of_tasks ?_ ?_ (fun e he => ⟨[], decided_nil (error_ne_success he) _⟩)
    (fun a hidle => ?_) fun app x _ h => h.settles ho (s.turn app)
  · rintro rfl
    cases ho
  · rintro rfl
    cases ho
  · obtain rfl | ⟨_, rfl, _⟩ := hidle <;> cases ho

/-- The task of an operation that does not never fails with the status of success. -/
theorem Task.ne_success {x : OnRow τ o.Answer} (h : Task o app x) (ho : o.awaits = false)
    (t : Turn τ) : Ends x t fun r _ => r ≠ .error .success := by
  cases h with
  | inquiry h => cases h <;> cases ho
  | appInstance =>
    exact ends_look (ends_reject (error_ne_success (by decide)) fun _ => ok_ne_success _)
  | unregisterEvents =>
    have hquiet : Mutters (τ := τ) (.unregisterEvents app) (do
        unsubscribeQuietly
        modifyRow Row.unbind) := mutters_unsubscribeQuietly.seq fun _ => mutters_modifyRow _
    exact hquiet.ne_success t
  | stopInstance caller _ token =>
    have hquiet : Mutters (τ := τ) (.stopInstance caller token) (do
        unsubscribeQuietly
        closeQuietly
        modifyRow Row.retire) :=
      mutters_unsubscribeQuietly.seq fun _ => mutters_closeQuietly.seq fun _ => mutters_modifyRow _
    exact ends_look (ends_reject (error_ne_success (by decide)) fun _ => hquiet.ne_success t)
  | _ => cases ho

omit [Transport τ] in
theorem mapError_ne_success (r : Except LinkError α) :
    r.mapError LinkError.status ≠ .error .success := by
  cases r with
  | ok a => exact ok_ne_success a
  | error e => exact error_ne_success e.status_ne_success

/-- Neither does the operation. -/
theorem ne_success_perform (ho : o.awaits = false) :
    Ends (perform o) s fun r _ => r ≠ .error .success := by
  by_cases hi : o = .init
  · subst hi
    exact mapError_ne_success _
  by_cases hd : o = .deinit
  · subst hd
    show ((deinit (τ := τ)).run s).1 ≠ _
    simp only [deinit, ExceptT.run]
    split <;> exact ok_ne_success ()
  exact ends_perform_of_tasks hi hd (fun _ he => error_ne_success he) (fun a _ => ok_ne_success a)
    fun app x _ h => h.ne_success ho (s.turn app)

/-! ## The whole -/

/-- An operation that goes by the answers of the co-processor fails with the status of success
exactly if the last answer is a failure with the code of success, and other operations never do. It
makes the request that it is there to make and asks for sessions and subscriptions, and the last of
these requests, if it has no answer, is what it fails with. A reply reports success exactly for a
complete answer, which then has the shape of the call, and for a failure with this status. -/
theorem success_iff (s : Service τ) :
    (∀ o : Operation, o.awaits = true →
        ∃ talk, Concluded o s.link talk ((perform o).run s).1 ((perform o).run s).2.link ∧
          (((perform o).run s).1 = .error .success ↔ Misreports talk)) ∧
      (∀ o : Operation, o.awaits = false → ((perform o).run s).1 ≠ .error .success) ∧
      ∀ (d : Dispatcher (Service τ)) (caller : Caller) (request : Request), d.operator = s →
        let reply := ((Dispatcher.dispatch caller request).run d).1
        reply.status = .success ↔ ∃ o, request.operation caller = .ok o ∧
          ((∃ body, reply = .ok body ∧ body.shape = request.opcode.row.body ∧
              ∃ a, ((perform o).run s).1 = .ok a) ∨
            (reply = .ok .empty ∧ ((perform o).run s).1 = .error .success)) := by
  refine ⟨fun o h => ?_, fun o h => ne_success_perform h, ?_⟩
  · obtain ⟨talk, hd⟩ : ∃ talk, Decided o s.link talk ((perform o).run s).1
        ((perform o).run s).2.link := decided_perform h
    exact ⟨talk, hd.toConcluded, hd.success⟩
  rintro d caller request rfl
  exact Dispatcher.status_eq_success_iff d caller request

/-- A device that refuses to open a session with the code 0 makes the start of a provisioning look
like a success without a handle. -/
theorem startProvisioning_misreported :
    ∃ s, s = run [.perform .init, .control (.refuse 0)] (start ["a"] Guid.nil {} []) ∧
      (∃ talk, Concluded (.startProvisioning "a") s.link talk ((startProvisioning "a").run s).1
        ((startProvisioning "a").run s).2.link ∧ Misreports talk) ∧
      ((Dispatcher.dispatch ⟨.self, 0⟩ (.startProvisioning (some "a"))).run ⟨s, "", 0⟩).1 =
        .ok .empty := by
  refine ⟨_, rfl, ?_⟩
  generalize hs : run [.perform .init, .control (.refuse 0)] (start ["a"] Guid.nil {} []) = s
  have hfails : ((startProvisioning "a").run s).1 = .error .success := by
    have hstatus : (match ((startProvisioning "a").run s).1 with
        | .ok _ => none
        | .error e => some e) = some .success := by
      rw [← hs]
      decide +kernel
    split at hstatus
    · cases hstatus
    · rename_i e he
      rw [he, Option.some.inj hstatus]
  have hop : (Request.startProvisioning (some "a")).operation ⟨.self, 0⟩ =
      .ok (.startProvisioning "a") := by
    rfl
  obtain ⟨talk, hc, hr⟩ := (success_iff s).1 (.startProvisioning "a") rfl
  refine ⟨⟨talk, hc, hr.mp hfails⟩, ?_⟩
  have hfails : ((Operator.perform (Operation.startProvisioning "a")).run s).1 =
      .error .success := hfails
  simp only [Dispatcher.reply_dispatch, hop, hfails]
  rfl

end Service

end AppletGateway
