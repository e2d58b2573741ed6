import AppletGateway.Proofs.Envelopes
import AppletGateway.Proofs.Transparency

/-!
# What passes the dispatcher

Whatever is put before the dispatcher, the operator behind it is asked for one operation at most. It
is asked if the envelope is read to its end and the arguments are valid, and then for what the
request admits. Everything else is answered with a bare status, and the operator does not learn of
it.

Results:
* `Request.operation_eq_ok_iff`: the check of a request gives the operations that it admits.
* `Dispatcher.performed_or_refused`: what becomes of an envelope.
-/

namespace AppletGateway

namespace Request

variable {caller : Caller} {request : Request} {o : Operation}

/-- A request with valid arguments, and the operation that it asks for. A handle and a token exclude
each other, and only a token can be refreshed. Firmware updates are never asked for. -/
inductive Admits (caller : Caller) : Request → Operation → Prop
  | init : Admits caller .init .init
  | deinit : Admits caller .deinit .deinit
  | getVersion : Admits caller .getVersion .version
  | startProvisioning {app} : ValidApp app →
    Admits caller (.startProvisioning (some app)) (.startProvisioning app)
  | endProvisioning {app handle capacity} : ValidApp app → ValidCapacity capacity →
    Admits caller (.endProvisioning (some app) handle capacity)
      (.endProvisioning app handle capacity)
  | sendData {app handle dataType data} : ValidApp app → ValidData data →
    Admits caller (.sendData (some app) handle dataType data)
      (.sendData app (optionalHandle handle) dataType data)
  | processSvpMessage {app handle data} : ValidApp app → ValidData data →
    Admits caller (.processSvpMessage (some app) handle data)
      (.sendData app (optionalHandle handle) 600 data)
  | receiveData {app handle dataType capacity} : ValidApp app → ValidCapacity capacity →
    Admits caller (.receiveData (some app) handle dataType capacity)
      (.receiveData app (optionalHandle handle) dataType capacity)
  | getSvpMessage {app handle capacity} : ValidApp app → ValidCapacity capacity →
    Admits caller (.getSvpMessage (some app) handle capacity)
      (.receiveData app (optionalHandle handle) 600 capacity)
  | sendAndReceiveData {app handle dataType data capacity} :
    ValidApp app → ValidData data → ValidCapacity capacity →
    Admits caller (.sendAndReceiveData (some app) handle dataType data capacity)
      (.sendAndReceive app (optionalHandle handle) dataType data capacity)
  | getCapabilities {app capType capacity} : ValidApp app → ValidCapacity capacity →
    Admits caller (.getCapabilities (some app) capType capacity)
      (.capabilities app capType capacity)
  | getOtpCapabilities {app capType capacity} : ValidApp app → ValidCapacity capacity →
    Admits caller (.getOtpCapabilities (some app) capType capacity)
      (.capabilities app capType capacity)
  | install {app source} : ValidApp app → source ≠ "" →
    Admits caller (.install (some app) (some source)) (.install app source)
  | installOtps {app source} : ValidApp app → source ≠ "" →
    Admits caller (.installOtps (some app) (some source)) (.install app source)
  | uninstall {app} : ValidApp app → Admits caller (.uninstall (some app)) (.uninstall app)
  | uninstallOtps {app} : ValidApp app → Admits caller (.uninstallOtps (some app)) (.uninstall app)
  | getOtp {app handle token vendorData otpCapacity tokenCapacity} :
    ValidApp app → ValidCapacity otpCapacity → tokenCapacity.toNat ≤ 65535 →
    (handle ≠ 0 ∧ token = [] ∧ tokenCapacity = 0 ∨ handle = 0 ∧ token ≠ []) →
    Admits caller (.getOtp (some app) handle token vendorData otpCapacity tokenCapacity)
      (.getOtp app ⟨optionalHandle handle, token, vendorData, otpCapacity, tokenCapacity⟩)
  | getOtpsStatus {app handle statusType} : ValidApp app →
    Admits caller (.getOtpsStatus (some app) handle statusType)
      (.otpsStatus app (optionalHandle handle) statusType)
  | getAppInstance {app} : ValidApp app →
    Admits caller (.getAppInstance (some app)) (.appInstance app)
  | registerEvents {app handler} : ValidApp app →
    Admits caller (.registerEvents (some app) (some handler)) (.registerEvents app handler)
  | unregisterEvents {app} : ValidApp app →
    Admits caller (.unregisterEvents (some app)) (.unregisterEvents app)
  | startInstance {app handler} : ValidApp app →
    Admits caller (.startInstance (some app) handler) (.startInstance caller app handler)
  | stopInstance {token} : token ≠ 0 →
    Admits caller (.stopInstance token) (.stopInstance caller token)

/-! ## The check -/

theorem bind_eq_ok_iff {α β : Type} {x : Except Status α} {f : α → Except Status β} {b : β} :
    x >>= f = .ok b ↔ ∃ a, x = .ok a ∧ f a = .ok b := by
  cases x with
  | error e => exact iff_of_false nofun nofun
  | ok a =>
    refine ⟨fun h => ⟨a, rfl, h⟩, ?_⟩
    rintro ⟨_, ⟨⟩, h⟩
    exact h

/-- A value behind a guard that refuses. -/
theorem guarded_eq_ok_iff {α β : Type} {c : Prop} [Decidable c] {e : Status}
    {f : β → Except Status α} {a b : α} :
    (if c then throw e >>= f else pure a) = Except.ok b ↔ ¬ c ∧ a = b := by
  split
  · rename_i h
    exact iff_of_false nofun fun h' => h'.1 h
  · rename_i h
    exact ⟨fun h' => ⟨h, Except.ok.inj h'⟩, fun h' => congrArg Except.ok h'.2⟩

theorem checkApp_eq_ok_iff {app : Option String} {name : String} :
    checkApp app = .ok name ↔ app = some name ∧ ValidApp name := by
  refine ⟨fun h => ?_, ?_⟩
  · unfold checkApp at h
    split at h
    · split at h
      · rename_i hvalid
        obtain rfl := Except.ok.inj h
        exact ⟨rfl, hvalid⟩
      · cases h
    · cases h
  · rintro ⟨rfl, h⟩
    exact checkApp_eq h

theorem checkData_eq_ok_iff {data : Bytes} {u : Unit} :
    checkData data = .ok u ↔ ValidData data := by
  refine ⟨fun h => ?_, fun h => checkData_eq h⟩
  unfold checkData at h
  split at h
  · cases h
  · rename_i hvalid
    obtain ⟨hne, hle⟩ := not_or.mp hvalid
    exact ⟨List.length_pos_iff.mpr hne, Nat.le_of_not_lt hle⟩

theorem checkCapacity_eq_ok_iff {capacity : UInt32} {mandatory : Bool} {u : Unit} :
    Negotiation.checkCapacity capacity mandatory = .ok u ↔
      (mandatory = true → capacity ≠ 0) ∧ capacity.toNat ≤ 65535 := by
  refine ⟨fun h => ?_, fun h => checkCapacity_eq h.1 h.2⟩
  unfold Negotiation.checkCapacity at h
  split at h
  · cases h
  · rename_i hzero
    split at h
    · cases h
    · rename_i hlarge
      exact ⟨fun hm h0 => hzero ⟨hm, h0⟩, Nat.le_of_not_lt hlarge⟩

theorem checkCapacity_mandatory_eq_ok_iff {capacity : UInt32} {u : Unit} :
    Negotiation.checkCapacity capacity true = .ok u ↔ ValidCapacity capacity := by
  rw [checkCapacity_eq_ok_iff, ValidCapacity, Nat.one_le_iff_ne_zero]
  exact and_congr_left' <| (forall_prop_of_true rfl).trans <|
    not_congr (UInt32.toNat_inj (b := 0)).symm

theorem checkSource_eq_ok_iff {source : Option String} {s : String} :
    checkSource source = .ok s ↔ source = some s ∧ s ≠ "" := by
  refine ⟨fun h => ?_, ?_⟩
  · unfold checkSource at h
    split at h
    · split at h
      · cases h
      · rename_i hempty
        obtain rfl := Except.ok.inj h
        exact ⟨rfl, hempty⟩
    · cases h
  · rintro ⟨rfl, h⟩
    exact if_neg h

theorem checkOtp_eq_ok_iff {handle : UInt32} {token vendorData : Bytes}
    {otpCapacity tokenCapacity : UInt32} {r : OtpRequest} :
    checkOtp handle token vendorData otpCapacity tokenCapacity = .ok r ↔
      (ValidCapacity otpCapacity ∧ tokenCapacity.toNat ≤ 65535 ∧
        (handle ≠ 0 ∧ token = [] ∧ tokenCapacity = 0 ∨ handle = 0 ∧ token ≠ [])) ∧
      ⟨optionalHandle handle, token, vendorData, otpCapacity, tokenCapacity⟩ = r := by
  simp only [checkOtp, bind_eq_ok_iff, checkCapacity_mandatory_eq_ok_iff, exists_const, and_assoc]
  refine and_congr_right fun _ => ?_
  simp only [checkCapacity_eq_ok_iff, Bool.false_eq_true, false_implies, true_and, exists_const]
  refine and_congr_right fun _ => ?_
  by_cases hhandle : handle = 0
  · subst hhandle
    rw [show optionalHandle 0 = none from rfl, guarded_eq_ok_iff]
    simp only [ne_eq, not_true_eq_false, false_and, false_or, true_and]
  · rw [show optionalHandle handle = some handle from if_neg hhandle, guarded_eq_ok_iff]
    simp only [ne_eq, hhandle, not_false_eq_true, true_and, false_and, or_false, not_or,
      Decidable.not_not]

/-- The check of a request gives the operations that the request admits. -/
theorem operation_eq_ok_iff : request.operation caller = .ok o ↔ request.Admits caller o := by
  constructor
  · intro h
    cases request with
    | init | deinit | getVersion =>
      obtain rfl := Except.ok.inj h
      constructor
    | doFwUpdate => cases h
    | startProvisioning | uninstall | uninstallOtps | getAppInstance | unregisterEvents
    | getOtpsStatus | startInstance =>
      simp only [operation, bind_eq_ok_iff, checkApp_eq_ok_iff] at h
      obtain ⟨app, ⟨rfl, happ⟩, h⟩ := h
      obtain rfl := Except.ok.inj h
      constructor
      exact happ
    | registerEvents _ handler =>
      simp only [operation, bind_eq_ok_iff, checkApp_eq_ok_iff] at h
      obtain ⟨app, ⟨rfl, happ⟩, h⟩ := h
      cases handler with
      | none => cases h
      | some handler =>
        obtain rfl := Except.ok.inj h
        exact .registerEvents happ
    | endProvisioning | receiveData | getSvpMessage | getCapabilities | getOtpCapabilities =>
      simp only [operation, bind_eq_ok_iff, checkApp_eq_ok_iff,
        checkCapacity_mandatory_eq_ok_iff] at h
      obtain ⟨app, ⟨rfl, happ⟩, _, hcapacity, h⟩ := h
      obtain rfl := Except.ok.inj h
      constructor
      · exact happ
      · exact hcapacity
    | sendData | processSvpMessage =>
      simp only [operation, bind_eq_ok_iff, checkApp_eq_ok_iff, checkData_eq_ok_iff] at h
      obtain ⟨app, ⟨rfl, happ⟩, _, hdata, h⟩ := h
      obtain rfl := Except.ok.inj h
      constructor
      · exact happ
      · exact hdata
    | sendAndReceiveData =>
      simp only [operation, bind_eq_ok_iff, checkApp_eq_ok_iff, checkData_eq_ok_iff,
        checkCapacity_mandatory_eq_ok_iff] at h
      obtain ⟨app, ⟨rfl, happ⟩, _, hdata, _, hcapacity, h⟩ := h
      obtain rfl := Except.ok.inj h
      exact .sendAndReceiveData happ hdata hcapacity
    | install | installOtps =>
      simp only [operation, bind_eq_ok_iff, checkApp_eq_ok_iff, checkSource_eq_ok_iff] at h
      obtain ⟨app, ⟨rfl, happ⟩, source, ⟨rfl, hsource⟩, h⟩ := h
      obtain rfl := Except.ok.inj h
      constructor
      · exact happ
      · exact hsource
    | getOtp =>
      simp only [operation, bind_eq_ok_iff, checkApp_eq_ok_iff, checkOtp_eq_ok_iff] at h
      obtain ⟨app, ⟨rfl, happ⟩, otp, ⟨⟨hcapacity, htoken, hcontext⟩, rfl⟩, h⟩ := h
      obtain rfl := Except.ok.inj h
      exact .getOtp happ hcapacity htoken hcontext
    | stopInstance token =>
      by_cases htoken : token = 0
      · rw [operation, if_pos htoken] at h
        cases h
      · rw [operation, if_neg htoken] at h
        obtain rfl := Except.ok.inj h
        exact .stopInstance htoken
  · intro h
    cases h with
    | init | deinit | getVersion => rfl
    | startProvisioning happ | uninstall happ | uninstallOtps happ | getAppInstance happ
    | unregisterEvents happ | getOtpsStatus happ | startInstance happ | registerEvents happ =>
      simp only [operation, checkApp_eq happ]
      rfl
    | endProvisioning happ hcapacity | receiveData happ hcapacity | getSvpMessage happ hcapacity
    | getCapabilities happ hcapacity | getOtpCapabilities happ hcapacity =>
      simp only [operation, checkApp_eq happ, checkCapacity_of_valid hcapacity]
      rfl
    | sendData happ hdata | processSvpMessage happ hdata =>
      simp only [operation, checkApp_eq happ, checkData_eq hdata]
      rfl
    | sendAndReceiveData happ hdata hcapacity =>
      simp only [operation, checkApp_eq happ, checkData_eq hdata, checkCapacity_of_valid hcapacity]
      rfl
    | install happ hsource | installOtps happ hsource =>
      simp only [operation, checkApp_eq happ, checkSource_eq_ok_iff.mpr ⟨rfl, hsource⟩]
      rfl
    | getOtp happ hcapacity htoken hcontext =>
      simp only [operation, checkApp_eq happ,
        checkOtp_eq_ok_iff.mpr ⟨⟨hcapacity, htoken, hcontext⟩, rfl⟩]
      rfl
    | stopInstance htoken => exact if_neg htoken

/-- A request admits one operation at most. -/
theorem Admits.unique {o' : Operation} (h : request.Admits caller o)
    (h' : request.Admits caller o') : o' = o := by
  rw [← operation_eq_ok_iff] at h h'
  exact Except.ok.inj (h'.symm.trans h)

end Request

namespace Dispatcher

/-- What is answered where no operation is performed. -/
def refusals : List Status :=
  [.internalError, .notImplemented, .memory, .invalidInput, .invalidInstanceId]

theorem status_mem_refusals (e : EnvelopeError) : e.status ∈ refusals := by
  cases e <;> simp [EnvelopeError.status, refusals]

theorem mem_refusals_of_refused : ∀ e ∈ Request.refusals, e ∈ refusals := by decide

variable {σ : Type} [Operator σ] {caller : Caller} {code : UInt32} {envelope : Envelope}
  {request : Request}

/-- A request that is read asks for what it admits, or is answered with a status. -/
theorem transact_of_decode (d : Dispatcher σ) (caller : Caller)
    (hdecode : Request.decode code d.descriptor envelope = .ok request) :
    let after := (transact caller code envelope).run d
    (∃ o, request.Admits caller o ∧
      after.2.operator = ((Operator.perform o).run d.operator).2) ∨
    (∀ o, ¬ request.Admits caller o) ∧ after.2.operator = d.operator ∧
      ∃ e ∈ refusals, after.1 = ⟨Bytes.ofWord e.code, []⟩ := by
  intro after
  have hoperator : after.2.operator = _ := operator_transact d caller code envelope
  have hreply : after.1 = _ := reply_transact d caller code envelope
  simp only [hdecode, operator_dispatch, reply_dispatch] at hoperator hreply
  clear_value after
  cases hop : request.operation caller with
  | ok o =>
    rw [hop] at hoperator
    exact .inl ⟨o, Request.operation_eq_ok_iff.mp hop, hoperator⟩
  | error e =>
    rw [hop] at hoperator hreply
    refine .inr ⟨fun o ho => ?_, hoperator, e, ?_, ?_⟩
    · rw [Request.operation_eq_ok_iff.mpr ho] at hop
      cases hop
    · exact mem_refusals_of_refused e (request.checks_operation caller _ hop)
    · rw [hreply, Reply.encode_ofStatus, List.append_nil]

/-- An envelope that is read as a request asks for what this request admits. Any other is answered
with a status, and the operator is left as it is. -/
theorem transact_cases (d : Dispatcher σ) (caller : Caller) (code : UInt32)
    (envelope : Envelope) :
    let after := (transact caller code envelope).run d
    (∃ request o, Request.decode code d.descriptor envelope = .ok request ∧
      request.Admits caller o ∧ after.2.operator = ((Operator.perform o).run d.operator).2) ∨
    (¬ ∃ request o, Request.decode code d.descriptor envelope = .ok request ∧
      request.Admits caller o) ∧ after.2.operator = d.operator ∧
      ∃ e ∈ refusals, after.1 = ⟨Bytes.ofWord e.code, []⟩ := by
  intro after
  cases hdecode : Request.decode code d.descriptor envelope with
  | ok request =>
    rcases transact_of_decode d caller hdecode with ⟨o, ho, hdone⟩ | ⟨hno, hrest⟩
    · exact .inl ⟨request, o, rfl, ho, hdone⟩
    · refine .inr ⟨?_, hrest⟩
      rintro ⟨_, o, hrequest, ho⟩
      obtain rfl := Except.ok.inj hrequest
      exact hno o ho
  | error e =>
    have hoperator : after.2.operator = _ := operator_transact d caller code envelope
    have hreply : after.1 = _ := reply_transact d caller code envelope
    simp only [hdecode] at hoperator hreply
    refine .inr ⟨?_, hoperator, e.status, status_mem_refusals e, ?_⟩
    · rintro ⟨_, _, hrequest, _⟩
      cases hrequest
    · rw [hreply, Reply.encode_ofStatus, List.append_nil]

/-- Any caller may put any envelope with any number before the dispatcher, in any state. It has the
operator perform one operation if the envelope is read to its end as a request that admits this
operation. Otherwise the operator is left as it is, and the reply is a bare status. -/
theorem performed_or_refused (d : Dispatcher (Recorded σ)) (caller : Caller) (code : UInt32)
    (envelope : Envelope) :
    let after := (transact caller code envelope).run d
    (∃ request o, Request.decode code d.descriptor envelope = .ok request ∧
      request.Admits caller o ∧ after.2.operator =
        ⟨((Operator.perform o).run d.operator.operator).2, d.operator.performed ++ [o]⟩) ∨
    (¬ ∃ request o, Request.decode code d.descriptor envelope = .ok request ∧
      request.Admits caller o) ∧ after.2.operator = d.operator ∧
      ∃ e ∈ refusals, after.1 = ⟨Bytes.ofWord e.code, []⟩ :=
  transact_cases d caller code envelope

end Dispatcher

end AppletGateway
