import AppletGateway.Device.Channel
import AppletGateway.Proofs.ClientCalls
import AppletGateway.Proofs.RoundTrips
import AppletGateway.Service

/-!
# Calls as operations

A client in front of a dispatcher can as well be in front of the operator behind it. A call with
valid arguments performs one operation, with those arguments, and gives what the operation gives.
Two things can come between: a text or a blob may be too long for its envelope, and a reply has no
place for a failure with the status of success, for one with the status "too small", for a code
that is not the one of its status, or for more lengths than the call has outputs.

Results:
* `Client.performs_once`: what a call with valid arguments has an operator do, and what it gives.
-/

namespace AppletGateway

open Envelope (blobLimit FitAll)

/-- An operator with a record of the operations that it has performed, oldest first. -/
structure Recorded (σ : Type) where
  operator : σ
  performed : List Operation := []

instance {σ : Type} [Operator σ] : Operator (Recorded σ) where
  perform o := fun s =>
    let (result, operator) := (Operator.perform o).run s.operator
    (result, { operator := operator, performed := s.performed ++ [o] })

/-! ## Valid arguments -/

def ValidApp (app : String) : Prop := 1 ≤ app.utf8ByteSize ∧ app.utf8ByteSize ≤ 32

def ValidData (data : Bytes) : Prop := 1 ≤ data.length ∧ data.length ≤ 65535

/-- A capacity that has to be there. -/
def ValidCapacity (capacity : UInt32) : Prop := 1 ≤ capacity.toNat ∧ capacity.toNat ≤ 65535

theorem ValidCapacity.ne_zero {capacity : UInt32} (h : ValidCapacity capacity) : capacity ≠ 0 := by
  rintro rfl
  exact absurd h.1 (by decide)

def ValidSource (source : String) : Prop := source ≠ "" ∧ source.utf8ByteSize < blobLimit

/-- The context is a handle or a token, never both, and only a token can be refreshed. -/
structure ValidOtp (r : OtpRequest) : Prop where
  otpCapacity : ValidCapacity r.otpCapacity
  token : r.token.length < blobLimit
  vendorData : r.vendorData.length < blobLimit
  context : r.handle.getD 0 ≠ 0 ∧ r.token = [] ∧ r.tokenCapacity = 0 ∨
    r.handle.getD 0 = 0 ∧ r.token ≠ [] ∧ r.tokenCapacity.toNat ≤ 65535

namespace Client

open Request (optionalHandle) in
/-- A call that makes one attempt and has valid arguments, its number, and the operation that it
stands for. Firmware updates stand for none. -/
inductive Call.StandsFor (caller : Caller) : Call → Opcode → Operation → Prop
  | init : StandsFor caller .init .init .init
  | deinit : StandsFor caller .deinit .deinit .deinit
  | version : StandsFor caller .version .getVersion .version
  | startProvisioning {app} : ValidApp app →
    StandsFor caller (.startProvisioning app) .startProvisioning (.startProvisioning app)
  | endProvisioning {app handle capacity} : ValidApp app → ValidCapacity capacity →
    StandsFor caller (.endProvisioning app handle capacity) .endProvisioning
      (.endProvisioning app handle capacity)
  | sendData {app handle dataType data} : ValidApp app → ValidData data →
    StandsFor caller (.sendData app handle dataType data) .sendData
      (.sendData app (optionalHandle handle) dataType data)
  | receiveData {app handle dataType capacity} : ValidApp app → ValidCapacity capacity →
    StandsFor caller (.receiveData app handle dataType capacity) .receiveData
      (.receiveData app (optionalHandle handle) dataType capacity)
  | sendAndReceive {app handle dataType data capacity} :
    ValidApp app → ValidData data → ValidCapacity capacity →
    StandsFor caller (.sendAndReceive app handle dataType data capacity) .sendAndReceiveData
      (.sendAndReceive app (optionalHandle handle) dataType data capacity)
  | processSvpMessage {app handle data} : ValidApp app → ValidData data →
    StandsFor caller (.processSvpMessage app handle data) .processSvpMessage
      (.sendData app (optionalHandle handle) 600 data)
  | capabilities {app capType capacity} : ValidApp app → ValidCapacity capacity →
    StandsFor caller (.capabilities app capType capacity) .getCapabilities
      (.capabilities app capType capacity)
  | install {app source} : ValidApp app → ValidSource source →
    StandsFor caller (.install app source) .install (.install app source)
  | installOtps {app source} : ValidApp app → ValidSource source →
    StandsFor caller (.installOtps app source) .installOtps (.install app source)
  | uninstall {app} : ValidApp app →
    StandsFor caller (.uninstall app) .uninstall (.uninstall app)
  | uninstallOtps {app} : ValidApp app →
    StandsFor caller (.uninstallOtps app) .uninstallOtps (.uninstall app)
  | getOtp {app} {otp : OtpRequest} : ValidApp app → ValidOtp otp →
    StandsFor caller (.getOtp app otp) .getOtp
      (.getOtp app { otp with handle := optionalHandle (otp.handle.getD 0) })
  | otpsStatus {app handle statusType} : ValidApp app →
    StandsFor caller (.otpsStatus app handle statusType) .getOtpsStatus
      (.otpsStatus app (optionalHandle handle) statusType)
  | appInstance {app} : ValidApp app →
    StandsFor caller (.appInstance app) .getAppInstance (.appInstance app)
  | registerEvents {app handler} : ValidApp app →
    StandsFor caller (.registerEvents app handler) .registerEvents (.registerEvents app handler)
  | unregisterEvents {app} : ValidApp app →
    StandsFor caller (.unregisterEvents app) .unregisterEvents (.unregisterEvents app)
  | startInstance {app handler} : ValidApp app →
    StandsFor caller (.startInstance app handler) .startInstance
      (.startInstance caller app handler)
  | stopInstance {token} : token ≠ 0 →
    StandsFor caller (.stopInstance token) .stopInstance (.stopInstance caller token)

/-- What a client answers that is given what an operation answers. -/
def Answer.of : (s : BodyShape) → s.Answer → Answer
  | .empty, () => .done
  | .handle, w | .value, w => .word w
  | .data, out => .data out
  | .otp, out => .negotiatedOtp out
  | .instanceToken, (token, flags) => .instanceToken token flags

end Client

/-- An answer that a reply to a call can carry. -/
def Carries (o : Opcode) : (s : BodyShape) → s.Answer → Prop
  | .data, .complete data => data.length < blobLimit
  | .otp, .complete out => out.password.length < blobLimit ∧ out.token.length < blobLimit
  | .data, .tooSmall required | .otp, .tooSmall required =>
    required.toList.length ≤ o.row.outputs
  | _, _ => True

/-- A result of an operation that a reply to a call can carry. -/
def Conveyable (o : Opcode) (s : BodyShape) : Except Status s.Answer → Prop
  | .ok answer => Carries o s answer
  | .error e => Status.ofCode e.code = e ∧ e ≠ .success ∧ e ≠ .insufficientBuffer

/-! ## The check -/

namespace Request

theorem checkApp_eq {app : String} (h : ValidApp app) : checkApp (some app) = .ok app := if_pos h

theorem checkData_eq {data : Bytes} (h : ValidData data) : checkData data = .ok () := by
  refine if_neg ?_
  rintro (rfl | hlong)
  · exact absurd h.1 (by decide)
  · exact absurd h.2 (Nat.not_le_of_lt hlong)

theorem checkCapacity_eq {capacity : UInt32} {mandatory : Bool}
    (hzero : mandatory = true → capacity ≠ 0) (hlarge : capacity.toNat ≤ 65535) :
    Negotiation.checkCapacity capacity mandatory = .ok () := by
  unfold Negotiation.checkCapacity
  rw [if_neg fun h => hzero h.1 h.2, if_neg]
  exact fun hlt => absurd hlarge (Nat.not_le_of_lt hlt)

theorem checkSource_eq {source : String} (h : ValidSource source) :
    checkSource (some source) = .ok source := if_neg h.1

theorem checkCapacity_of_valid {capacity : UInt32} (h : ValidCapacity capacity) :
    Negotiation.checkCapacity capacity true = .ok () := checkCapacity_eq (fun _ => h.ne_zero) h.2

theorem checkOtp_eq {r : OtpRequest} (h : ValidOtp r) :
    checkOtp (r.handle.getD 0) r.token r.vendorData r.otpCapacity r.tokenCapacity =
      .ok { r with handle := optionalHandle (r.handle.getD 0) } := by
  have hfirst := checkCapacity_of_valid h.otpCapacity
  have hsecond : Negotiation.checkCapacity r.tokenCapacity false = .ok () := by
    refine checkCapacity_eq nofun ?_
    rcases h.context with ⟨_, _, hzero⟩ | ⟨_, _, hle⟩
    · rw [hzero]
      decide
    · exact hle
  unfold checkOtp
  simp only [hfirst, hsecond, bind, Except.bind]
  rcases h.context with ⟨hhandle, htoken, hzero⟩ | ⟨hhandle, htoken, _⟩
  · have hsome : optionalHandle (r.handle.getD 0) = some (r.handle.getD 0) := if_neg hhandle
    simp only [hsome, htoken, hzero, ne_eq, not_true_eq_false, or_self, if_false]
    rfl
  · have hnone : optionalHandle (r.handle.getD 0) = none := if_pos hhandle
    simp only [hnone, htoken, if_false]
    rfl

end Request

theorem ValidApp.fits {app : String} (h : ValidApp app) :
    Envelope.Fits .text (some app) := Nat.lt_of_le_of_lt h.2 (by decide)

theorem ValidData.fits {data : Bytes} (h : ValidData data) : Envelope.Fits .blob data :=
  Nat.lt_of_le_of_lt h.2 (by decide)

namespace Client

open Request

theorem Call.StandsFor.request {caller : Caller} {call : Call} {code : Opcode} {o : Operation}
    (h : call.StandsFor caller code o) : ∃ q, call.request? = some q ∧ q.opcode = code ∧
      q.operation caller = .ok o ∧ FitAll q.opcode.layout q.fields := by
  cases h with
  | init | deinit | version => exact ⟨_, rfl, rfl, rfl, trivial⟩
  | startProvisioning happ | uninstall happ | uninstallOtps happ | appInstance happ
  | unregisterEvents happ =>
    refine ⟨_, rfl, rfl, ?_, happ.fits, trivial⟩
    simp only [operation, checkApp_eq happ]
    rfl
  | otpsStatus happ =>
    refine ⟨_, rfl, rfl, ?_, happ.fits, trivial, trivial, trivial⟩
    simp only [operation, checkApp_eq happ]
    rfl
  | endProvisioning happ hcapacity | capabilities happ hcapacity =>
    refine ⟨_, rfl, rfl, ?_, happ.fits, trivial, trivial, trivial⟩
    simp only [operation, checkApp_eq happ, checkCapacity_of_valid hcapacity]
    rfl
  | receiveData happ hcapacity =>
    refine ⟨_, rfl, rfl, ?_, happ.fits, trivial, trivial, trivial, trivial⟩
    simp only [operation, checkApp_eq happ, checkCapacity_of_valid hcapacity]
    rfl
  | sendData happ hdata =>
    refine ⟨_, rfl, rfl, ?_, happ.fits, trivial, trivial, hdata.fits, trivial⟩
    simp only [operation, checkApp_eq happ, checkData_eq hdata]
    rfl
  | processSvpMessage happ hdata =>
    refine ⟨_, rfl, rfl, ?_, happ.fits, trivial, hdata.fits, trivial⟩
    simp only [operation, checkApp_eq happ, checkData_eq hdata]
    rfl
  | sendAndReceive happ hdata hcapacity =>
    refine ⟨_, rfl, rfl, ?_, happ.fits, trivial, trivial, hdata.fits, trivial, trivial⟩
    simp only [operation, checkApp_eq happ, checkData_eq hdata, checkCapacity_of_valid hcapacity]
    rfl
  | install happ hsource | installOtps happ hsource =>
    refine ⟨_, rfl, rfl, ?_, happ.fits, hsource.2, trivial⟩
    simp only [operation, checkApp_eq happ, checkSource_eq hsource]
    rfl
  | getOtp happ hotp =>
    refine ⟨_, rfl, rfl, ?_, happ.fits, trivial, hotp.token, hotp.vendorData, trivial, trivial,
      trivial⟩
    simp only [operation, checkApp_eq happ, checkOtp_eq hotp]
    rfl
  | registerEvents happ | startInstance happ =>
    refine ⟨_, rfl, rfl, ?_, happ.fits, trivial, trivial⟩
    simp only [operation, checkApp_eq happ]
    rfl
  | stopInstance htoken => exact ⟨_, rfl, rfl, if_neg htoken, trivial, trivial⟩

/-! ## The reply -/

theorem answerOf_ofAnswer (s : BodyShape) (a : s.Answer) :
    answerOf s (Reply.ofAnswer s a) = .ok (Answer.of s a) := by
  cases s with
  | data | otp => cases a <;> rfl
  | _ => rfl

theorem answerOf_failed (s : BodyShape) (e : Status) : answerOf s (.failed e) = .error e := by
  cases s <;> rfl

theorem possible_ofAnswer {o : Opcode} {s : BodyShape} {a : s.Answer} (hs : s = o.row.body)
    (h : Carries o s a) : (Reply.ofAnswer s a).Possible o := by
  cases s with
  | empty => exact ⟨hs, trivial⟩
  | handle | value => exact ⟨hs, trivial, trivial⟩
  | instanceToken => exact ⟨hs, trivial, trivial, trivial⟩
  | data =>
    cases a with
    | complete data => exact ⟨hs, h, trivial⟩
    | tooSmall required => exact h
  | otp =>
    cases a with
    | complete out => exact ⟨hs, h.1, h.2, trivial⟩
    | tooSmall required => exact h

theorem ofStatus_eq_failed {e : Status} (hsuccess : e ≠ .success)
    (hbuffer : e ≠ .insufficientBuffer) : Reply.ofStatus e = .failed e := by
  cases e <;> first | rfl | exact absurd rfl hsuccess | exact absurd rfl hbuffer

/-! ## The call -/

variable {σ : Type} [Operator σ]

/-- What is heard in answer to a request with valid arguments is what the operation gives. -/
theorem heard_eq {c : Client (Direct σ)} {q : Request} {o : Operation}
    (hdecode : Request.decode q.opcode.code c.remote.dispatcher.descriptor
      (q.encode c.descriptor) = .ok q)
    (ho : q.operation c.remote.caller = .ok o)
    (h : Conveyable q.opcode o.shape ((Operator.perform o).run c.remote.dispatcher.operator).1) :
    (c.heard q).bind (answerOf q.opcode.row.body) =
      ((Operator.perform o).run c.remote.dispatcher.operator).1.map (Answer.of o.shape) := by
  have hshape : o.shape = q.opcode.row.body := by
    have hcheck := q.checks_operation c.remote.caller _ rfl
    rw [ho] at hcheck
    exact hcheck.1
  rw [heard_direct, Dispatcher.reply_transact, hdecode]
  dsimp only
  rw [Dispatcher.reply_dispatch, ho]
  dsimp only
  rw [← hshape]
  cases hr : ((Operator.perform o).run c.remote.dispatcher.operator).1 with
  | ok answer =>
    rw [hr] at h
    dsimp only
    rw [Reply.decode_encode (possible_ofAnswer hshape h)]
    exact answerOf_ofAnswer _ _
  | error e =>
    rw [hr] at h
    obtain ⟨hcode, hsuccess, hbuffer⟩ := h
    have hpossible : (Reply.failed e).Possible q.opcode := ⟨hcode, hsuccess, hbuffer⟩
    dsimp only
    rw [ofStatus_eq_failed hsuccess hbuffer, Reply.decode_encode hpossible]
    exact answerOf_failed _ _

/-- A call with valid arguments has the operator perform one operation. -/
theorem ends_perform_direct {c : Client (Direct σ)} {call : Call} {code : Opcode} {o : Operation}
    (hcall : call.StandsFor c.remote.caller code o)
    (hdescriptor : c.descriptor = c.remote.dispatcher.descriptor)
    (hshort : c.descriptor.utf8ByteSize < blobLimit) :
    let done := (Operator.perform o).run c.remote.dispatcher.operator
    Ends (perform call) c fun r c' => c'.remote.dispatcher.operator = done.2 ∧
      (Conveyable code o.shape done.1 → r = done.1.map (Answer.of o.shape)) := by
  intro done
  obtain ⟨q, hq, rfl, ho, hfit⟩ := hcall.request
  have hdecode : Request.decode q.opcode.code c.remote.dispatcher.descriptor
      (q.encode c.descriptor) = .ok q := by
    rw [← hdescriptor]
    exact Request.decode_encode hshort hfit
  refine (settles_perform hq).mono fun r c' hs => ⟨?_, fun hconveyed => ?_⟩
  · obtain ⟨released, hremote, _⟩ := hs.remote
    rw [hremote, letGo_direct]
    show ((Dispatcher.transact c.remote.caller q.opcode.code (q.encode c.descriptor)).run
      c.remote.dispatcher).2.operator = done.2
    rw [Dispatcher.operator_transact, hdecode]
    dsimp only
    rw [Dispatcher.operator_dispatch, ho]
  · rw [hs.result]
    exact heard_eq hdecode ho hconveyed

/-- A client in front of a dispatcher is one in front of the operator behind it, whoever calls and
whatever the operator: a call with valid arguments performs the operation that it stands for, once
and with these arguments, and gives what the operation gives if a reply can carry it. -/
theorem performs_once (c : Client (Direct (Recorded σ))) {call : Call} {code : Opcode}
    {o : Operation} (hcall : call.StandsFor c.remote.caller code o)
    (hdescriptor : c.descriptor = c.remote.dispatcher.descriptor)
    (hshort : c.descriptor.utf8ByteSize < blobLimit) :
    let before := c.remote.dispatcher.operator
    let done := (Operator.perform o).run before.operator
    let after := (perform call).run c
    after.2.remote.dispatcher.operator = ⟨done.2, before.performed ++ [o]⟩ ∧
      (Conveyable code o.shape done.1 → after.1 = done.1.map (Answer.of o.shape)) :=
  ends_perform_direct hcall hdescriptor hshort

/-- Data is sent without a handle and comes back reversed. -/
theorem sendAndReceive_performs :
    ∃ (s : Service Channel) (c : Client (Direct (Recorded (Service Channel)))) (call : Call)
        (o : Operation),
      s = ((Service.perform .init).run
        { link := { transport := { device := .ofApps ["a"] } }, options := {} }).2 ∧
      c = .new ⟨{ operator := { operator := s }, descriptor := "i" }, ⟨.self, 0⟩⟩ "i" 64 ∧
      call = .sendAndReceive "a" 0 1 [1, 2] 8 ∧ o = .sendAndReceive "a" none 1 [1, 2] 8 ∧
      call.StandsFor c.remote.caller .sendAndReceiveData o ∧
      c.descriptor = c.remote.dispatcher.descriptor ∧ c.descriptor.utf8ByteSize < blobLimit ∧
      Conveyable .sendAndReceiveData o.shape ((Operator.perform o).run s).1 ∧
      ((perform call).run c).2.remote.dispatcher.operator.performed = [o] ∧
      ((perform call).run c).1 = .ok (.data (.complete [2, 1])) := by
  refine ⟨_, _, _, _, rfl, rfl, rfl, rfl, ?_⟩
  generalize hs : (ExceptT.run (Service.perform .init)
    ({ link := { transport := { device := .ofApps ["a"] } }, options := {} } :
      Service Channel)).2 = s
  have hanswer : ((Service.sendAndReceive "a" none 1 [1, 2] 8).run s).1 =
      .ok (.complete [2, 1]) := by
    rw [← hs]
    exact eq_ok_of_toOption (by decide +kernel)
  have hcall : Call.StandsFor ⟨.self, 0⟩ (.sendAndReceive "a" 0 1 [1, 2] 8) .sendAndReceiveData
      (.sendAndReceive "a" none 1 [1, 2] 8) :=
    .sendAndReceive ⟨by decide, by decide⟩ ⟨by decide, by decide⟩ ⟨by decide, by decide⟩
  have hshort : "i".utf8ByteSize < blobLimit := by decide
  have hconveyed : Conveyable .sendAndReceiveData .data
      ((Service.sendAndReceive "a" none 1 [1, 2] 8).run s).1 := by
    rw [hanswer]
    show [1, 2].length < blobLimit
    decide
  obtain ⟨hdone, hresult⟩ := performs_once (.new ⟨{ operator := { operator := s }
                                                    descriptor := "i" }, ⟨.self, 0⟩⟩ "i" 64)
    hcall rfl hshort
  refine ⟨hcall, rfl, hshort, hconveyed, ?_, ?_⟩
  · rw [hdone]
    rfl
  · rw [hresult hconveyed]
    exact congrArg (Except.map (Answer.of .data)) hanswer

end Client

end AppletGateway
