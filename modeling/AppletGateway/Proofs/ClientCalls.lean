import AppletGateway.Client.Call
import AppletGateway.Proofs.Envelopes

/-!
# The calls of a client, whatever is at the other end

A call that makes no retry sends one request. What it answers is read from the reply alone, and
afterwards the client brings its tables up to date and lets go of handlers. A handler that was held
or sent is then held, or let go, or another one has taken its place: noting a handler for an app
writes over the one noted before, and nothing is let go then.

Results:
* `Client.settles_perform`: what such a call answers, what it has done to the remote, and which
  handlers the client holds after it.
* `Client.keeps_perform`: what requests that cannot change the handlers keep is kept by the calls
  made of them.
-/

namespace AppletGateway

/-- The handlers that a request sends. -/
def Request.handlers : Request → List Handler
  | registerEvents _ (some h) | startInstance _ (some h) => [h]
  | _ => []

theorem Request.objects_encode (q : Request) (descriptor : String) :
    (q.encode descriptor).objects = q.handlers := by
  have htext (s : Option String) (e : Envelope) : (e.writeText s).objects = e.objects := by
    cases s <;> rfl
  cases q with
  | registerEvents app handler | startInstance app handler =>
    cases handler <;> simp [encode, opcode, Opcode.layout, fields, Envelope.writeFields,
      Envelope.writeField, Envelope.writeHandler, Envelope.writeWord, htext, handlers]
  | _ => simp [encode, opcode, Opcode.layout, fields, Envelope.writeFields, Envelope.writeField,
      Envelope.writeWord, Envelope.writeBlob, htext, handlers]

theorem Request.handlers_of_not_binds {q : Request} (h : q.opcode.binds = false) :
    q.handlers = [] := by
  cases q <;> first | rfl | cases h

namespace Client

variable {ρ : Type} [Remote ρ] {α : Type} {c : Client ρ} {q : Request}

/-! ## One request -/

/-- The remote after a request. -/
def sent (c : Client ρ) (q : Request) : ρ :=
  (Remote.transact q.opcode.code (q.encode c.descriptor) c.remote).2

/-- What a client hears in answer to a request. -/
def heard (c : Client ρ) (q : Request) : Except Status Reply :=
  match (Remote.transact q.opcode.code (q.encode c.descriptor) c.remote).1 with
  | .error e => .error e.status
  | .ok envelope =>
    match Reply.decode q.opcode envelope with
    | .ok reply => .ok reply
    | .error _ => .error .internalError

theorem ends_call {Q : Except Status Reply → Client ρ → Prop} :
    Ends (call q) c Q ↔ Q (c.heard q) { c with remote := c.sent q } := Iff.rfl

seal call

/-- What is heard in a reply without negotiated outputs. -/
def bodyOf : Reply → Except Status Reply.Body
  | .ok body => .ok body
  | .tooSmall _ => .error .insufficientBuffer
  | .failed s => .error s

theorem ends_callBody {Q : Except Status Reply.Body → Client ρ → Prop} :
    Ends (callBody q) c Q ↔ Q ((c.heard q).bind bodyOf) { c with remote := c.sent q } := by
  rw [callBody, ends_bind, ends_call]
  rcases c.heard q with _ | (_ | _ | _) <;> rfl

theorem ends_callUnit {Q : Except Status Unit → Client ρ → Prop} :
    Ends (callUnit q) c Q ↔
      Q (((c.heard q).bind bodyOf).map fun _ => ()) { c with remote := c.sent q } := by
  rw [callUnit, ends_bind, ends_callBody]
  cases (c.heard q).bind bodyOf <;> rfl

/-! ## Calls that leave the handlers alone -/

section Calm

variable {I : Client ρ → Prop}

omit [Remote ρ] in
theorem keeps_complete (out : Negotiated α) : Keeps I (complete out : Run ρ α) := by
  cases out with
  | complete v => exact keeps_pure _
  | tooSmall _ => exact keeps_throw _

omit [Remote ρ] in
theorem keeps_retryOnce {initial : Lengths} {attempt : Lengths → Run ρ (Negotiated α)}
    (h : ∀ l, Keeps I (attempt l)) : Keeps I (Negotiation.retryOnce initial attempt) :=
  (h initial).bind fun out => by
    cases out with
    | complete v => exact keeps_pure _
    | tooSmall required => exact h _

omit [Remote ρ] in
theorem keeps_performUnit {x : Run ρ Unit} (h : Keeps I x) : Keeps I (performUnit x) :=
  h.bind fun _ => keeps_pure _

variable (hcall : ∀ q : Request, q.opcode.binds = false → Keeps I (call q : Run ρ Reply))
include hcall

theorem keeps_callBody (hbinds : q.opcode.binds = false) :
    Keeps I (callBody q : Run ρ Reply.Body) :=
  (hcall q hbinds).bind fun reply => by
    cases reply with
    | ok body => exact keeps_pure _
    | tooSmall _ => exact keeps_throw _
    | failed _ => exact keeps_throw _

theorem keeps_callUnit (hbinds : q.opcode.binds = false) : Keeps I (callUnit q : Run ρ Unit) :=
  (keeps_callBody hcall hbinds).bind fun _ => keeps_pure _

theorem keeps_callValue (hbinds : q.opcode.binds = false) :
    Keeps I (callValue q : Run ρ UInt32) :=
  (keeps_callBody hcall hbinds).bind fun body => by
    cases body with
    | value _ => exact keeps_pure _
    | handle _ => exact keeps_pure _
    | _ => exact keeps_throw _

theorem keeps_callData (hbinds : q.opcode.binds = false) :
    Keeps I (callData q : Run ρ (Negotiated Bytes)) :=
  (hcall q hbinds).bind fun reply => by
    cases reply with
    | ok body =>
      cases body with
      | data _ => exact keeps_pure _
      | _ => exact keeps_throw _
    | tooSmall _ => exact keeps_pure _
    | failed _ => exact keeps_throw _

theorem keeps_negotiateData {request : UInt32 → Request}
    (hbinds : ∀ n, (request n).opcode.binds = false) :
    Keeps I (negotiateData request : Run ρ Bytes) :=
  keeps_get fun c hc => ((keeps_retryOnce fun _ => keeps_callData hcall (hbinds _)).bind fun out =>
    keeps_complete out) c hc

theorem keeps_getOtp {app : String} {otp : OtpRequest} :
    Keeps I (getOtp app otp : Run ρ (Negotiated Otp)) :=
  (hcall _ rfl).bind fun reply => by
    cases reply with
    | ok body =>
      cases body with
      | otp _ _ => exact keeps_pure _
      | _ => exact keeps_throw _
    | tooSmall _ => exact keeps_pure _
    | failed _ => exact keeps_throw _

theorem keeps_getOtpNegotiated {app : String} {otp : OtpRequest} :
    Keeps I (getOtpNegotiated app otp : Run ρ Otp) :=
  keeps_get fun c hc => ((keeps_retryOnce fun _ => keeps_getOtp hcall).bind fun out =>
    keeps_complete out) c hc

theorem keeps_appInstance {app : String} :
    Keeps I (appInstance app : Run ρ (UInt32 × UInt32)) :=
  (keeps_callBody hcall rfl).bind fun body => by
    cases body with
    | instanceToken _ _ => exact keeps_pure _
    | _ => exact keeps_throw _

/-- The calls that can change which handlers are bound. -/
def Call.binds : Call → Bool
  | .deinit | .uninstall _ | .uninstallOtps _ | .registerEvents .. | .unregisterEvents _
  | .startInstance .. | .stopInstance _ => true
  | _ => false

/-- What every request keeps that cannot change the handlers, every call keeps that cannot. -/
theorem keeps_perform {call : Call} (hbinds : call.binds = false) :
    Keeps I (perform call : Run ρ Answer) := by
  have hword {request : Request} (h : request.opcode.binds = false) :
      Keeps I (do return .word (← callValue request) : Run ρ Answer) :=
    (keeps_callValue hcall h).bind fun _ => keeps_pure _
  have hdata {request : Request} (h : request.opcode.binds = false) :
      Keeps I (do return .data (← callData request) : Run ρ Answer) :=
    (keeps_callData hcall h).bind fun _ => keeps_pure _
  have hbytes {request : UInt32 → Request} (h : ∀ n, (request n).opcode.binds = false) :
      Keeps I (do return .bytes (← negotiateData request) : Run ρ Answer) :=
    (keeps_negotiateData hcall h).bind fun _ => keeps_pure _
  cases call with
  | init | doFwUpdate | sendData | processSvpMessage | install | installOtps =>
    exact keeps_performUnit (keeps_callUnit hcall rfl)
  | version | startProvisioning | otpsStatus => exact hword rfl
  | endProvisioning | receiveData | sendAndReceive | capabilities => exact hdata rfl
  | endProvisioningNegotiated | receiveDataNegotiated | sendAndReceiveNegotiated | getSvpMessage
  | capabilitiesNegotiated | otpCapabilities => exact hbytes fun _ => rfl
  | getOtp => exact (keeps_getOtp hcall).bind fun _ => keeps_pure _
  | getOtpNegotiated => exact (keeps_getOtpNegotiated hcall).bind fun _ => keeps_pure _
  | appInstance => exact (keeps_appInstance hcall).bind fun _ => keeps_pure _
  | deinit | uninstall | uninstallOtps | registerEvents | unregisterEvents | startInstance
  | stopInstance => cases hbinds

end Calm

/-! ## The tables of a client -/

/-- The remote after handlers were let go of, one after the other. -/
def letGo (handlers : List Handler) (remote : ρ) : ρ :=
  handlers.foldl (fun r h => Remote.release h r) remote

omit [Remote ρ] in
theorem holds_iff {h : Handler} : c.holds h = true ↔ ∃ app, c.bindings.get? app = some h := by
  rw [holds, List.contains_iff_mem, Table.mem_values_iff]

omit [Remote ρ] in
theorem holds_congr {c' : Client ρ} (h : c'.bindings = c.bindings) (handler : Handler) :
    c'.holds handler = c.holds handler :=
  congrArg (fun t : Table String Handler => t.values.contains handler) h

/-- What is let go of a handler that is no longer noted for an app. -/
def dropped (c : Client ρ) (h : Handler) : List Handler := if c.holds h = true then [] else [h]

theorem releaseUnlessBound_eq_letGo (h : Handler) (c : Client ρ) :
    c.releaseUnlessBound h = { c with remote := letGo (c.dropped h) c.remote } := by
  unfold releaseUnlessBound dropped
  cases c.holds h <;> rfl

theorem unbindAll_eq_letGo (c : Client ρ) : c.unbindAll = { c with
    remote := letGo c.bindings.values c.remote, bindings := Table.empty
    instances := Table.empty } := by
  have hfold (handlers : List Handler) (c : Client ρ) :
      handlers.foldl (fun c h => c.release h) c =
        { c with remote := letGo handlers c.remote } := by
    induction handlers generalizing c with
    | nil => rfl
    | cons h handlers ih => exact ih (c.release h)
  exact hfold _ _

/-! ## Calls that make one request -/

/-- The request of a call that makes only one. -/
def Call.request? : Call → Option Request
  | .init => some .init
  | .deinit => some .deinit
  | .version => some .getVersion
  | .doFwUpdate => some .doFwUpdate
  | .startProvisioning app => some (.startProvisioning app)
  | .endProvisioning app handle capacity => some (.endProvisioning app handle capacity)
  | .sendData app handle dataType data => some (.sendData app handle dataType data)
  | .receiveData app handle dataType capacity => some (.receiveData app handle dataType capacity)
  | .sendAndReceive app handle dataType data capacity =>
    some (.sendAndReceiveData app handle dataType data capacity)
  | .processSvpMessage app handle data => some (.processSvpMessage app handle data)
  | .capabilities app capType capacity => some (.getCapabilities app capType capacity)
  | .install app source => some (.install app source)
  | .installOtps app source => some (.installOtps app source)
  | .uninstall app => some (.uninstall app)
  | .uninstallOtps app => some (.uninstallOtps app)
  | .getOtp app r => some (.getOtp app (r.handle.getD 0) r.token r.vendorData r.otpCapacity
      r.tokenCapacity)
  | .otpsStatus app handle statusType => some (.getOtpsStatus app handle statusType)
  | .appInstance app => some (.getAppInstance app)
  | .registerEvents app h => some (.registerEvents app h)
  | .unregisterEvents app => some (.unregisterEvents app)
  | .startInstance app handler => some (.startInstance app handler)
  | .stopInstance token => some (.stopInstance token)
  | .endProvisioningNegotiated .. | .receiveDataNegotiated .. | .sendAndReceiveNegotiated ..
  | .getSvpMessage .. | .capabilitiesNegotiated .. | .otpCapabilities .. | .getOtpNegotiated .. =>
    none

/-- What a client makes of a reply whose body should have a shape. -/
def answerOf : BodyShape → Reply → Except Status Answer
  | .empty, .ok _ => .ok .done
  | .handle, .ok (.handle w) | .handle, .ok (.value w)
  | .value, .ok (.handle w) | .value, .ok (.value w) => .ok (.word w)
  | .data, .ok (.data d) => .ok (.data (.complete d))
  | .data, .tooSmall required => .ok (.data (.tooSmall required))
  | .otp, .ok (.otp password token) => .ok (.negotiatedOtp (.complete ⟨password, token⟩))
  | .otp, .tooSmall required => .ok (.negotiatedOtp (.tooSmall required))
  | .instanceToken, .ok (.instanceToken token flags) => .ok (.instanceToken token flags)
  | _, .ok _ => .error .internalError
  | _, .tooSmall _ => .error .insufficientBuffer
  | _, .failed s => .error s

/-- The app and the handler that a call notes if it succeeds. -/
def Call.brings : Call → Option (String × Handler)
  | .registerEvents app h | .startInstance app (some h) => some (app, h)
  | _ => none

theorem Call.handlers_of_request? {call : Call} {q : Request} (h : call.request? = some q) :
    q.handlers = (call.brings.map Prod.snd).toList := by
  cases call with
  | startInstance app handler => cases h; cases handler <;> rfl
  | _ => cases h <;> rfl

/-- A call that makes its retry by itself cannot change the handlers. -/
theorem Call.calm_of_request? {call : Call} (h : call.request? = none) :
    call.binds = false ∧ call.brings = none := by
  cases call <;> first | exact ⟨rfl, rfl⟩ | cases h

/-- If the call succeeds, another handler takes the place of `h`, which no other app has bound. -/
def Replaces (c : Client ρ) (call : Call) (h : Handler) : Prop :=
  ∃ app k, call.brings = some (app, k) ∧ h ≠ k ∧ c.bindings.get? app = some h ∧
    ∀ other, other ≠ app → c.bindings.get? other ≠ some h

/-- What becomes of the handlers in a call that sends `handlers` and lets go of `released`. -/
structure Accounts (c : Client ρ) (call : Call) (handlers released : List Handler)
    (r : Except Status Answer) (c' : Client ρ) : Prop where
  /-- What was held or sent is held, let go, or replaced. -/
  holds : ∀ h, c'.holds h = true ↔ (c.holds h = true ∨ h ∈ handlers) ∧ h ∉ released ∧
    ¬ ((∃ a, r = .ok a) ∧ Replaces c call h)
  /-- What is replaced is not let go. -/
  replaced : ∀ h, (∃ a, r = .ok a) → Replaces c call h → h ∉ released
  /-- A call that fails does not make the client hold anything. -/
  refused : ∀ h, (∃ e, r = .error e) → c'.holds h = true → c.holds h = true
  /-- A call that sends a handler lets go of no other. -/
  own : ∀ h ∈ released, handlers = [] ∨ h ∈ handlers

/-- How a call ends that sends the request `q` and no other. -/
structure Settled (c : Client ρ) (call : Call) (q : Request) (r : Except Status Answer)
    (c' : Client ρ) : Prop where
  result : r = (c.heard q).bind (answerOf q.opcode.row.body)
  remote : ∃ released, c'.remote = letGo released (c.sent q) ∧
    Accounts c call q.handlers released r c'

section Settling

variable {call : Call} {r : Except Status Answer} {c' : Client ρ}

omit [Remote ρ] in
theorem not_replaces (hb : call.brings = none) (h : Handler) : ¬ Replaces c call h := by
  rintro ⟨app, k, hk, _⟩
  rw [hb] at hk
  cases hk

omit [Remote ρ] in
/-- A call that brings no handler cannot make the client hold one. -/
theorem accounts_of_holds {released : List Handler} (hb : call.brings = none)
    (hholds : ∀ h, c'.holds h = true ↔ c.holds h = true ∧ h ∉ released) :
    Accounts c call [] released r c' where
  holds h := by simp [hholds h, not_replaces (c := c) hb h]
  replaced h _ hr := absurd hr (not_replaces hb h)
  refused h _ hh := ((hholds h).mp hh).1
  own _ _ := .inl rfl

omit [Remote ρ] in
/-- A call that leaves the table as it was lets go of nothing. -/
theorem accounts_unchanged (hb : call.brings = none) (ht : c'.bindings = c.bindings) :
    Accounts c call [] [] r c' :=
  accounts_of_holds hb fun h => by simp [holds_congr ht]

omit [Remote ρ] in
/-- A call that has unbound the handler of an app lets go of it unless it is still held. -/
theorem accounts_erase {app : String} {h : Handler} {c₁ : Client ρ} (hb : call.brings = none)
    (hh : c.bindings.get? app = some h) (ht₁ : c₁.bindings = c.bindings.erase app)
    (ht : c'.bindings = c₁.bindings) : Accounts c call [] (c₁.dropped h) r c' := by
  refine accounts_of_holds hb fun x => ?_
  have hholds (y : Handler) : c₁.holds y = true ↔
      ∃ other, app ≠ other ∧ c.bindings.get? other = some y := by
    simp only [holds_iff, ht₁, Table.get?_erase]
    refine exists_congr fun other => ?_
    split <;> simp_all
  rw [dropped, holds_congr ht]
  by_cases hx : x = h
  · subst hx
    cases hc : c₁.holds x with
    | true =>
      obtain ⟨other, _, hother⟩ := (hholds x).mp hc
      simpa using holds_iff.mpr ⟨other, hother⟩
    | false => simp
  · have hsame : c₁.holds x = true ↔ c.holds x = true := by
      rw [hholds, holds_iff]
      refine ⟨fun ⟨other, _, hother⟩ => ⟨other, hother⟩, fun ⟨other, hother⟩ => ⟨other, ?_, hother⟩⟩
      rintro rfl
      exact hx (Option.some.inj (hother.symm.trans hh))
    cases c₁.holds h <;> simp [hsame, hx]

omit [Remote ρ] in
/-- A call that has cleared the table lets go of all that were held. -/
theorem accounts_clear (hb : call.brings = none) (ht : c'.bindings = Table.empty) :
    Accounts c call [] c.bindings.values r c' := by
  refine accounts_of_holds hb fun x => ?_
  have hnone : ¬ c'.holds x = true := by
    rw [holds_iff, ht]
    rintro ⟨app, happ⟩
    cases happ
  rw [holds_iff (c := c), ← Table.mem_values_iff]
  exact iff_of_false hnone fun ⟨hm, hn⟩ => hn hm

omit [Remote ρ] in
/-- A call that has failed to bind a handler lets go of it unless it is held. -/
theorem accounts_refused {h : Handler} {e : Status} (ht : c'.bindings = c.bindings) :
    Accounts c call [h] (c.dropped h) (.error e) c' where
  holds x := by
    rw [holds_congr ht, dropped]
    by_cases hx : x = h
    · subst hx
      cases hc : c.holds x <;> simp
    · cases c.holds h <;> simp [hx]
  replaced _ := fun ⟨_, hr⟩ => nomatch hr
  refused x _ hx := holds_congr ht x ▸ hx
  own x hx := .inr <| by
    rw [dropped] at hx
    split at hx
    · cases hx
    · exact hx

omit [Remote ρ] in
/-- A call that has bound a handler lets go of none. -/
theorem accounts_set {app : String} {h : Handler} {a : Answer} (hb : call.brings = some (app, h))
    (ht : c'.bindings = c.bindings.set app h) : Accounts c call [h] [] (.ok a) c' where
  holds x := by
    have hreplaces : Replaces c call x ↔ x ≠ h ∧ c.bindings.get? app = some x ∧
        ∀ other, other ≠ app → c.bindings.get? other ≠ some x := by
      constructor
      · rintro ⟨app', k, hk, hrest⟩
        obtain ⟨rfl, rfl⟩ := Prod.mk.inj (Option.some.inj (hb.symm.trans hk))
        exact hrest
      · exact fun hrest => ⟨app, h, hb, hrest⟩
    simp only [holds_iff, ht, Table.get?_set, hreplaces]
    constructor
    · rintro ⟨other, hother⟩
      split at hother
      · obtain rfl := Option.some.inj hother
        simp
      · rename_i hne
        exact ⟨.inl ⟨other, hother⟩, List.not_mem_nil,
          fun ⟨_, _, _, hno⟩ => hno other (Ne.symm hne) hother⟩
    · rintro ⟨hheld, -, hno⟩
      by_cases hx : x = h
      · exact ⟨app, by rw [if_pos rfl, hx]⟩
      obtain ⟨other, hother⟩ := hheld.resolve_right (fun hm => hx (List.mem_singleton.mp hm))
      by_cases helse : ∃ other, other ≠ app ∧ c.bindings.get? other = some x
      · obtain ⟨other, hne, hother⟩ := helse
        exact ⟨other, by rw [if_neg (Ne.symm hne)]; exact hother⟩
      · have happ : c.bindings.get? app = some x := by
          by_cases heq : other = app
          · exact heq ▸ hother
          · exact absurd ⟨other, heq, hother⟩ helse
        exact absurd ⟨⟨a, rfl⟩, hx, happ, fun other hne hsome => helse ⟨other, hne, hsome⟩⟩ hno
  replaced _ _ _ := List.not_mem_nil
  refused _ := fun ⟨_, hr⟩ => nomatch hr
  own _ hx := nomatch hx

/-- A call that has nothing to note. -/
theorem settled_calm (hb : call.brings = none) (hh : q.handlers = [])
    (hr : r = (c.heard q).bind (answerOf q.opcode.row.body)) (ht : c'.bindings = c.bindings)
    (hs : c'.remote = c.sent q) : Settled c call q r c' := by
  refine ⟨hr, [], hs, ?_⟩
  rw [hh]
  exact accounts_unchanged hb ht

/-- A call that notes an unbound handler. -/
theorem settled_unbind (hb : call.brings = none) (hh : q.handlers = [])
    (hr : r = (c.heard q).bind (answerOf q.opcode.row.body)) (app : String)
    (instances : Table UInt32 String) :
    Settled c call q r
      (unbind app { c with remote := c.sent q, instances := instances }) := by
  unfold unbind
  dsimp only
  cases happ : c.bindings.get? app with
  | none => exact settled_calm hb hh hr (Table.erase_of_get?_eq_none happ) rfl
  | some h =>
    dsimp only
    rw [releaseUnlessBound_eq_letGo]
    refine ⟨hr, _, rfl, ?_⟩
    rw [hh]
    exact accounts_erase hb happ rfl rfl

/-- A call that fails to bind a handler. -/
theorem settled_refused {h : Handler} {e : Status} (hh : q.handlers = [h])
    (hr : .error e = (c.heard q).bind (answerOf q.opcode.row.body)) :
    Settled c call q (.error e) (releaseUnlessBound h { c with remote := c.sent q }) := by
  rw [releaseUnlessBound_eq_letGo]
  have hsame (remote : ρ) : { c with remote := remote }.bindings = c.bindings := rfl
  refine ⟨hr, _, rfl, ?_⟩
  rw [hh]
  exact accounts_refused (hsame _)

end Settling

/-! ## Reading the answer -/

/-- What a call gives that reads the reply and notes nothing. -/
def Reads (c : Client ρ) (q : Request) (r : Except Status Answer) (c' : Client ρ) : Prop :=
  r = (c.heard q).bind (answerOf q.opcode.row.body) ∧ c' = { c with remote := c.sent q }

theorem reads_unit (hbody : q.opcode.row.body = .empty) :
    Ends (performUnit (callUnit q)) c (Reads c q) := by
  unfold Reads
  rw [performUnit, ends_bind, callUnit, ends_bind, ends_callBody, hbody]
  rcases c.heard q with _ | (_ | _ | _) <;> exact ⟨rfl, rfl⟩

theorem reads_word (hbody : q.opcode.row.body = .handle ∨ q.opcode.row.body = .value) :
    Ends (do return .word (← callValue q) : Run ρ Answer) c (Reads c q) := by
  unfold Reads
  rw [ends_bind, callValue, ends_bind, ends_callBody]
  rcases hbody with hbody | hbody <;> rw [hbody] <;>
    rcases c.heard q with _ | ((_ | _ | _ | _ | _ | _) | _ | _) <;> exact ⟨rfl, rfl⟩

theorem reads_data (hbody : q.opcode.row.body = .data) :
    Ends (do return .data (← callData q) : Run ρ Answer) c (Reads c q) := by
  unfold Reads
  rw [ends_bind, callData, ends_bind, ends_call, hbody]
  rcases c.heard q with _ | ((_ | _ | _ | _ | _ | _) | _ | _) <;> exact ⟨rfl, rfl⟩

theorem reads_otp (app : String) (r : OtpRequest) :
    Ends (do return .negotiatedOtp (← getOtp app r) : Run ρ Answer) c (Reads c
      (.getOtp app (r.handle.getD 0) r.token r.vendorData r.otpCapacity r.tokenCapacity)) := by
  unfold Reads
  rw [ends_bind, getOtp, ends_bind, ends_call]
  rcases c.heard _ with _ | ((_ | _ | _ | _ | _ | _) | _ | _) <;> exact ⟨rfl, rfl⟩

theorem reads_appInstance (app : String) :
    Ends (perform (.appInstance app)) c (Reads c (.getAppInstance app)) := by
  unfold Reads
  rw [perform, ends_bind, appInstance, ends_bind, ends_callBody]
  rcases c.heard _ with _ | ((_ | _ | _ | _ | _ | _) | _ | _) <;> exact ⟨rfl, rfl⟩

/-! ## Each call -/

section Settling

variable {call : Call}

theorem settles_of_reads (hb : call.brings = none) (hh : q.handlers = [])
    {x : Run ρ Answer} (h : Ends x c (Reads c q)) : Ends x c (Settled c call q) := by
  refine h.mono fun r c' hr => ?_
  obtain ⟨hr, rfl⟩ := hr
  exact settled_calm hb hh hr rfl rfl

/-- What a call makes of the reply that only gets done. -/
theorem heard_unit (c : Client ρ) (hbody : q.opcode.row.body = .empty) :
    (c.heard q).bind (answerOf q.opcode.row.body) =
      ((c.heard q).bind bodyOf).map fun _ => Answer.done := by
  rw [hbody]
  rcases c.heard q with _ | (_ | _ | _) <;> rfl

/-- A call that only gets done and has a consequence for the tables. -/
theorem settles_callThen (hb : call.brings = none) (hh : q.handlers = [])
    (hbody : q.opcode.row.body = .empty) {after : Client ρ → Client ρ}
    (hafter : ∀ r, r = (c.heard q).bind (answerOf q.opcode.row.body) →
      Settled c call q r (after { c with remote := c.sent q })) :
    Ends (performUnit (callThen q after)) c (Settled c call q) := by
  have hr := heard_unit c hbody
  rw [performUnit, ends_bind, callThen, ends_bind, ends_callUnit]
  cases hs : (c.heard q).bind bodyOf with
  | error e =>
    rw [hs] at hr
    exact settled_calm hb hh hr.symm rfl rfl
  | ok body =>
    rw [hs] at hr
    exact hafter _ hr.symm

theorem settles_registerEvents (app : String) (h : Handler) :
    Ends (performUnit (registerEvents app h)) c
      (Settled c (.registerEvents app h) (.registerEvents app h)) := by
  have hr := heard_unit (q := .registerEvents app h) c rfl
  rw [performUnit, ends_bind, registerEvents, ends_tryCatch, callThen, ends_bind, ends_callUnit]
  cases hs : (c.heard (.registerEvents app h)).bind bodyOf with
  | error e =>
    rw [hs] at hr
    exact settled_refused rfl hr.symm
  | ok body =>
    rw [hs] at hr
    exact ⟨hr.symm, [], rfl, accounts_set rfl rfl⟩

theorem settles_unregisterEvents (app : String) :
    Ends (performUnit (unregisterEvents app)) c
      (Settled c (.unregisterEvents app) (.unregisterEvents app)) := by
  have hr := heard_unit (q := .unregisterEvents app) c rfl
  rw [performUnit, ends_bind, unregisterEvents, ends_tryCatch, callThen, ends_bind, ends_callUnit]
  cases hs : (c.heard (.unregisterEvents app)).bind bodyOf with
  | error e =>
    rw [hs] at hr
    simp only [Except.map, andThen_error, orElse_error]
    split
    · exact settled_unbind rfl rfl hr.symm app _
    · exact settled_calm rfl rfl hr.symm rfl rfl
  | ok body =>
    rw [hs] at hr
    exact settled_unbind rfl rfl hr.symm app _

theorem settles_startInstance (app : String) (handler : Option Handler) :
    Ends (perform (.startInstance app handler)) c
      (Settled c (.startInstance app handler) (.startInstance app handler)) := by
  have hrefused (e : Status)
      (hr : .error e = (c.heard (.startInstance app handler)).bind (answerOf .value)) :
      Settled c (.startInstance app handler) (.startInstance app handler) (.error e)
        (handler.elim { c with remote := c.sent (.startInstance app handler) } fun h =>
          releaseUnlessBound h { c with remote := c.sent (.startInstance app handler) }) := by
    cases handler with
    | none => exact settled_calm rfl rfl hr rfl rfl
    | some h => exact settled_refused rfl hr
  have hstarted (token : UInt32) (instances : Table UInt32 String)
      (hr : .ok (.word token) = (c.heard (.startInstance app handler)).bind (answerOf .value)) :
      Settled c (.startInstance app handler) (.startInstance app handler) (.ok (.word token))
        { c with
          remote := c.sent (.startInstance app handler)
          bindings := handler.elim c.bindings fun h => c.bindings.set app h
          instances := instances } := by
    cases handler with
    | none => exact settled_calm rfl rfl hr rfl rfl
    | some h => exact ⟨hr, [], rfl, accounts_set rfl rfl⟩
  rw [perform, ends_bind, startInstance, ends_bind]
  refine (ends_tryCatch _).mpr ?_
  rw [ends_bind, callValue, ends_bind, ends_callBody]
  cases hs : c.heard (.startInstance app handler) with
  | error e =>
    rw [hs] at hrefused
    have := hrefused e rfl
    cases handler <;> exact this
  | ok reply =>
    rw [hs] at hrefused hstarted
    cases reply with
    | ok body =>
      cases body with
      | handle token | value token =>
        have := hstarted token (c.instances.set token app) rfl
        cases handler <;> exact this
      | _ =>
        -- A reply without a word is not taken for a token.
        have := hrefused .internalError rfl
        cases handler <;> exact this
    | tooSmall _ =>
      have := hrefused .insufficientBuffer rfl
      cases handler <;> exact this
    | failed e =>
      have := hrefused e rfl
      cases handler <;> exact this

theorem settles_stopInstance (token : UInt32) :
    Ends (performUnit (stopInstance token)) c
      (Settled c (.stopInstance token) (.stopInstance token)) := by
  have hr := heard_unit (q := .stopInstance token) c rfl
  rw [performUnit, ends_bind, stopInstance, ends_bind, ends_callUnit]
  cases hs : (c.heard (.stopInstance token)).bind bodyOf with
  | error e =>
    rw [hs] at hr
    exact settled_calm rfl rfl hr.symm rfl rfl
  | ok body =>
    rw [hs] at hr
    simp only [Except.map, andThen_ok, ends_bind, ends_get]
    split
    · exact settled_unbind rfl rfl hr.symm _ _
    · exact settled_calm rfl rfl hr.symm rfl rfl

/-- Every call that makes one request gives what it hears in answer, and its handlers are accounted
for. -/
theorem settles_perform {call : Call} (h : call.request? = some q) :
    Ends (perform call) c (Settled c call q) := by
  cases call with
  | init | doFwUpdate | sendData | processSvpMessage | install | installOtps =>
    cases h
    exact settles_of_reads rfl rfl (reads_unit rfl)
  | version | otpsStatus =>
    cases h
    exact settles_of_reads rfl rfl (reads_word (.inr rfl))
  | startProvisioning =>
    cases h
    exact settles_of_reads rfl rfl (reads_word (.inl rfl))
  | endProvisioning | receiveData | sendAndReceive | capabilities =>
    cases h
    exact settles_of_reads rfl rfl (reads_data rfl)
  | getOtp app r =>
    cases h
    exact settles_of_reads rfl rfl (reads_otp app r)
  | appInstance app =>
    cases h
    exact settles_of_reads rfl rfl (reads_appInstance app)
  | deinit =>
    cases h
    refine settles_callThen rfl rfl rfl fun r hr => ?_
    rw [unbindAll_eq_letGo]
    exact ⟨hr, _, rfl, accounts_clear rfl rfl⟩
  | uninstall app | uninstallOtps app =>
    cases h
    exact settles_callThen rfl rfl rfl fun r hr => settled_unbind rfl rfl hr app _
  | registerEvents app h' =>
    cases h
    exact settles_registerEvents app h'
  | unregisterEvents app =>
    cases h
    exact settles_unregisterEvents app
  | startInstance app handler =>
    cases h
    exact settles_startInstance app handler
  | stopInstance token =>
    cases h
    exact settles_stopInstance token
  | _ => cases h

end Settling

/-! ## In front of a dispatcher -/

section Direct

variable {σ : Type} [Operator σ] {c : Client (Direct σ)}

/-- There is nothing to let go of. -/
theorem letGo_direct (handlers : List Handler) (remote : Direct σ) :
    letGo handlers remote = remote := by
  unfold letGo
  induction handlers with
  | nil => rfl
  | cons h handlers ih => exact ih

theorem heard_direct : c.heard q = match Reply.decode q.opcode ((Dispatcher.transact
    c.remote.caller q.opcode.code (q.encode c.descriptor)).run c.remote.dispatcher).1 with
      | .ok reply => .ok reply
      | .error _ => .error .internalError := rfl

theorem body_heard_direct : (c.heard q).bind bodyOf = Reply.taken (Reply.decode q.opcode
    ((Dispatcher.transact c.remote.caller q.opcode.code (q.encode c.descriptor)).run
      c.remote.dispatcher).1) := by
  rw [heard_direct]
  generalize Reply.decode q.opcode _ = decoded
  rcases decoded with _ | (_ | _ | _) <;> rfl

end Direct

end Client

end AppletGateway
