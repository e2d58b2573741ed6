import AppletGateway.Dispatcher

/-!
# From a request to a reply

The dispatcher checks a request, performs an operation and writes a reply. The check makes an
operation whose answer has the shape of the call, and refuses with one of three statuses, none of
them success. So a reply that reports success is a complete answer of that shape, unless the
operation itself has failed with the status of success.

Results:
* `Request.checks_operation`: what the check of a request gives.
* `Dispatcher.reply_dispatch`, `Dispatcher.operator_dispatch`: the reply to a request and the state
  after it.
* `Dispatcher.status_eq_success_iff`: what a reply that reports success stands for.
-/

namespace AppletGateway

/-- The operations whose success can change which handlers are bound. -/
def Operation.binds : Operation → Bool
  | deinit | uninstall _ | registerEvents .. | unregisterEvents _ | startInstance ..
  | stopInstance .. => true
  | _ => false

/-- The calls that ask for such an operation. -/
def Opcode.binds : Opcode → Bool
  | deinit | uninstall | uninstallOtps | registerEvents | unregisterEvents | startInstance
  | stopInstance => true
  | _ => false

/-! ## The check -/

namespace Request

variable {α β : Type}

/-- What the check of a request can refuse it with. -/
def refusals : List Status := [.invalidInput, .notImplemented, .invalidInstanceId]

theorem ne_success_of_mem_refusals : ∀ e ∈ refusals, e ≠ .success := by decide

/-- The check gives a value that satisfies `P`, or refuses. -/
def Checks (P : α → Prop) (x : Except Status α) : Prop :=
  ∀ r, x = r → match r with
    | .ok a => P a
    | .error e => e ∈ refusals

theorem checks_pure {P : α → Prop} {a : α} (h : P a) : Checks P (pure a) := by
  rintro _ rfl
  exact h

theorem checks_error {P : α → Prop} {e : Status} (h : e ∈ refusals) : Checks P (.error e) := by
  rintro _ rfl
  exact h

theorem Checks.bind {P : β → Prop} {Q : α → Prop} {x : Except Status α} {f : α → Except Status β}
    (hx : Checks Q x) (hf : ∀ a, Checks P (f a)) : Checks P (x >>= f) := by
  cases x with
  | error e => exact checks_error (hx _ rfl)
  | ok a => exact hf a

theorem checks_checkApp (app : Option String) : Checks (fun _ => True) (checkApp app) := by
  unfold checkApp
  split
  · split
    · exact checks_pure trivial
    · exact checks_error (by decide)
  · exact checks_error (by decide)

theorem checks_checkData (data : Bytes) : Checks (fun _ => True) (checkData data) := by
  unfold checkData
  split
  · exact checks_error (by decide)
  · exact checks_pure trivial

theorem checks_checkSource (source : Option String) :
    Checks (fun _ => True) (checkSource source) := by
  unfold checkSource
  split
  · split
    · exact checks_error (by decide)
    · exact checks_pure trivial
  · exact checks_error (by decide)

theorem checks_checkCapacity (capacity : UInt32) (mandatory : Bool) :
    Checks (fun _ => True) (Negotiation.checkCapacity capacity mandatory) := by
  unfold Negotiation.checkCapacity
  split
  · exact checks_error (by decide)
  · split
    · exact checks_error (by decide)
    · exact checks_pure trivial

theorem checks_checkOtp (handle : UInt32) (token vendorData : Bytes)
    (otpCapacity tokenCapacity : UInt32) :
    Checks (fun _ => True)
      (checkOtp handle token vendorData otpCapacity tokenCapacity) := by
  refine (checks_checkCapacity _ _).bind fun _ => (checks_checkCapacity _ _).bind fun _ => ?_
  split
  · split
    · exact checks_error (by decide)
    · exact checks_pure trivial
  · split
    · exact checks_error (by decide)
    · exact checks_pure trivial

/-- The check of a request gives an operation of the shape of the call, which can change the
handlers if the call can. -/
theorem checks_operation (caller : Caller) (request : Request) :
    Checks (fun o => o.shape = request.opcode.row.body ∧ o.binds = request.opcode.binds)
      (request.operation caller) := by
  cases request with
  | init => exact checks_pure ⟨rfl, rfl⟩
  | deinit => exact checks_pure ⟨rfl, rfl⟩
  | getVersion => exact checks_pure ⟨rfl, rfl⟩
  | doFwUpdate => exact checks_error (by decide)
  | startProvisioning app => exact (checks_checkApp app).bind fun _ => checks_pure ⟨rfl, rfl⟩
  | endProvisioning app handle capacity =>
    exact (checks_checkApp app).bind fun _ => (checks_checkCapacity _ _).bind fun _ =>
      checks_pure ⟨rfl, rfl⟩
  | sendData app handle dataType data =>
    exact (checks_checkApp app).bind fun _ => (checks_checkData _).bind fun _ =>
      checks_pure ⟨rfl, rfl⟩
  | processSvpMessage app handle data =>
    exact (checks_checkApp app).bind fun _ => (checks_checkData _).bind fun _ =>
      checks_pure ⟨rfl, rfl⟩
  | receiveData app handle dataType capacity =>
    exact (checks_checkApp app).bind fun _ => (checks_checkCapacity _ _).bind fun _ =>
      checks_pure ⟨rfl, rfl⟩
  | getSvpMessage app handle capacity =>
    exact (checks_checkApp app).bind fun _ => (checks_checkCapacity _ _).bind fun _ =>
      checks_pure ⟨rfl, rfl⟩
  | sendAndReceiveData app handle dataType data capacity =>
    exact (checks_checkApp app).bind fun _ => (checks_checkData _).bind fun _ =>
      (checks_checkCapacity _ _).bind fun _ => checks_pure ⟨rfl, rfl⟩
  | getCapabilities app capType capacity =>
    exact (checks_checkApp app).bind fun _ => (checks_checkCapacity _ _).bind fun _ =>
      checks_pure ⟨rfl, rfl⟩
  | getOtpCapabilities app capType capacity =>
    exact (checks_checkApp app).bind fun _ => (checks_checkCapacity _ _).bind fun _ =>
      checks_pure ⟨rfl, rfl⟩
  | install app source =>
    exact (checks_checkApp app).bind fun _ => (checks_checkSource _).bind fun _ =>
      checks_pure ⟨rfl, rfl⟩
  | installOtps app source =>
    exact (checks_checkApp app).bind fun _ => (checks_checkSource _).bind fun _ =>
      checks_pure ⟨rfl, rfl⟩
  | uninstall app => exact (checks_checkApp app).bind fun _ => checks_pure ⟨rfl, rfl⟩
  | uninstallOtps app => exact (checks_checkApp app).bind fun _ => checks_pure ⟨rfl, rfl⟩
  | getOtp app handle token vendorData otpCapacity tokenCapacity =>
    exact (checks_checkApp app).bind fun _ => (checks_checkOtp _ _ _ _ _).bind fun _ =>
      checks_pure ⟨rfl, rfl⟩
  | getOtpsStatus app handle statusType =>
    exact (checks_checkApp app).bind fun _ => checks_pure ⟨rfl, rfl⟩
  | getAppInstance app => exact (checks_checkApp app).bind fun _ => checks_pure ⟨rfl, rfl⟩
  | registerEvents app handler =>
    refine (checks_checkApp app).bind fun _ => ?_
    cases handler with
    | none => exact checks_error (by decide)
    | some h => exact checks_pure ⟨rfl, rfl⟩
  | unregisterEvents app => exact (checks_checkApp app).bind fun _ => checks_pure ⟨rfl, rfl⟩
  | startInstance app handler => exact (checks_checkApp app).bind fun _ => checks_pure ⟨rfl, rfl⟩
  | stopInstance token =>
    show Checks _ (if token = 0 then _ else _)
    split
    · exact checks_error (by decide)
    · exact checks_pure ⟨rfl, rfl⟩

end Request

/-! ## The reply -/

/-- The reply that carries an answer reports success or "too small", and in the first case it has
the shape of the answer. -/
theorem Reply.ofAnswer_cases (shape : BodyShape) (answer : shape.Answer) :
    (∃ body : Body, ofAnswer shape answer = .ok body ∧ body.shape = shape) ∨
      ∃ required, ofAnswer shape answer = .tooSmall required := by
  cases shape with
  | empty => exact .inl ⟨_, rfl, rfl⟩
  | handle => exact .inl ⟨_, rfl, rfl⟩
  | value => exact .inl ⟨_, rfl, rfl⟩
  | data =>
    cases answer with
    | complete data => exact .inl ⟨_, rfl, rfl⟩
    | tooSmall required => exact .inr ⟨required, rfl⟩
  | otp =>
    cases answer with
    | complete otp => exact .inl ⟨_, rfl, rfl⟩
    | tooSmall required => exact .inr ⟨required, rfl⟩
  | instanceToken => exact .inl ⟨_, rfl, rfl⟩

theorem Reply.status_ofStatus_eq_success_iff {e : Status} :
    (Reply.ofStatus e).status = .success ↔ e = .success := by
  cases e <;> simp [ofStatus, status]

namespace Dispatcher

variable {σ : Type} [Operator σ] (d : Dispatcher σ) (caller : Caller) (request : Request)

/-- The reply to a request. -/
theorem reply_dispatch : ((dispatch caller request).run d).1 =
    match request.operation caller with
    | .error e => .ofStatus e
    | .ok o => match ((Operator.perform o).run d.operator).1 with
      | .ok answer => .ofAnswer o.shape answer
      | .error e => .ofStatus e := by
  simp only [dispatch, StateT.run]
  cases request.operation caller with
  | error e => rfl
  | ok o =>
    simp only [ExceptT.run]
    generalize Operator.perform o d.operator = out
    rcases out with ⟨_ | _, _⟩ <;> rfl

/-- The state after a request. -/
theorem operator_dispatch : ((dispatch caller request).run d).2 =
    match request.operation caller with
    | .error _ => d
    | .ok o => { d with operator := ((Operator.perform o).run d.operator).2 } := by
  simp only [dispatch, StateT.run]
  cases request.operation caller with
  | error e => rfl
  | ok o =>
    simp only [ExceptT.run]
    generalize Operator.perform o d.operator = out
    rcases out with ⟨_ | _, _⟩ <;> rfl

/-- The reply to the envelope of a request. -/
theorem reply_transact (code : UInt32) (envelope : Envelope) :
    ((transact caller code envelope).run d).1 =
      match Request.decode code d.descriptor envelope with
      | .error e => (Reply.ofStatus e.status).encode
      | .ok request => ((dispatch caller request).run d).1.encode := by
  simp only [transact, StateT.run]
  cases Request.decode code d.descriptor envelope with
  | error e => rfl
  | ok request =>
    refine congrArg Reply.encode ?_
    show ((dispatch caller request).run { d with served := d.served + 1 }).1 = _
    rw [reply_dispatch]
    exact (reply_dispatch d caller request).symm

/-- The state of the operator after the envelope of a request. -/
theorem operator_transact (code : UInt32) (envelope : Envelope) :
    ((transact caller code envelope).run d).2.operator =
      match Request.decode code d.descriptor envelope with
      | .error _ => d.operator
      | .ok request => ((dispatch caller request).run d).2.operator := by
  simp only [transact, StateT.run]
  cases Request.decode code d.descriptor envelope with
  | error e => rfl
  | ok request =>
    show ((dispatch caller request).run { d with served := d.served + 1 }).2.operator = _
    rw [operator_dispatch]
    refine Eq.trans ?_ (congrArg Dispatcher.operator (operator_dispatch d caller request)).symm
    cases request.operation caller <;> rfl

/-- A transaction leaves what requests have to start with as it is. -/
theorem descriptor_transact (code : UInt32) (envelope : Envelope) :
    ((transact caller code envelope).run d).2.descriptor = d.descriptor := by
  simp only [transact, StateT.run]
  cases Request.decode code d.descriptor envelope with
  | error e => rfl
  | ok request =>
    show ((dispatch caller request).run { d with served := d.served + 1 }).2.descriptor = _
    rw [operator_dispatch]
    cases request.operation caller <;> rfl

/-- A reply reports success exactly for a complete answer, which then has the shape of the call, and
for a failure with the status of success, which is answered without fields. -/
theorem status_eq_success_iff :
    let reply := ((dispatch caller request).run d).1
    reply.status = .success ↔ ∃ o, request.operation caller = .ok o ∧
      ((∃ body, reply = .ok body ∧ body.shape = request.opcode.row.body ∧
          ∃ a, ((Operator.perform o).run d.operator).1 = .ok a) ∨
        (reply = .ok .empty ∧ ((Operator.perform o).run d.operator).1 = .error .success)) := by
  intro reply
  have hreply : reply = _ := reply_dispatch d caller request
  have hcheck := request.checks_operation caller _ rfl
  clear_value reply
  cases hop : request.operation caller with
  | error e =>
    rw [hop] at hreply hcheck
    subst hreply
    have hne := Request.ne_success_of_mem_refusals e hcheck
    refine iff_of_false (fun h => hne (Reply.status_ofStatus_eq_success_iff.mp h)) ?_
    rintro ⟨o, ho, _⟩
    cases ho
  | ok o =>
    rw [hop] at hreply hcheck
    simp only [Except.ok.injEq, exists_eq_left']
    cases hres : ((Operator.perform o).run d.operator).1 with
    | error e =>
      simp only [hres] at hreply
      subst hreply
      rw [Reply.status_ofStatus_eq_success_iff]
      constructor
      · rintro rfl
        exact .inr ⟨rfl, rfl⟩
      · rintro (⟨_, _, _, a, ha⟩ | ⟨_, he⟩)
        · cases ha
        · exact Except.error.inj he
    | ok answer =>
      simp only [hres] at hreply
      subst hreply
      rcases Reply.ofAnswer_cases o.shape answer with ⟨body, h, hbody⟩ | ⟨required, h⟩
      · rw [h]
        exact iff_of_true rfl (.inl ⟨body, rfl, hbody.trans hcheck.1, answer, rfl⟩)
      · rw [h]
        refine iff_of_false nofun ?_
        rintro (⟨_, h, _⟩ | ⟨h, _⟩) <;> cases h

end Dispatcher

end AppletGateway
