import AppletGateway.Operation
import AppletGateway.Reply
import AppletGateway.Request

/-!
# The dispatcher

Every call goes through four stages: its envelope is read, its arguments are checked, one operation
is performed, and the reply is written. The check turns a request into the operation it asks for,
so that nothing is performed that was not checked; calls of the first and third version are other
names for the same operations.
-/

namespace AppletGateway

/-- The longest name of an app, in bytes (`APP_NAME_MAX_LEN`). -/
def maxAppName : Nat := 32

/-- The data type of the provisioning messages of the first version. -/
def svpDataType : UInt32 := 600

namespace Request

/-- The name of an app: present, not empty and not too long (`app_name`). -/
def checkApp : Option String → Except Status String
  | some app => if 0 < app.utf8ByteSize ∧ app.utf8ByteSize ≤ maxAppName then .ok app
    else .error .invalidInput
  | none => .error .invalidInput

/-- Data that has to be there: not empty, and with a length of sixteen bits (`mandatory`). -/
def checkData (data : Bytes) : Except Status Unit :=
  if data = [] ∨ maxCapacity.toNat < data.length then .error .invalidInput else .ok ()

/-- The source of an app: present and not empty. -/
def checkSource : Option String → Except Status String
  | some source => if source = "" then .error .invalidInput else .ok source
  | none => .error .invalidInput

/-- A handle of zero is none (`optional`). -/
def optionalHandle (handle : UInt32) : Option UInt32 := if handle = 0 then none else some handle

/-- The rules of a request for a one-time password: its capacity is mandatory; the context is a
handle or a token, never both; only a token can be refreshed (`otp_request`). -/
def checkOtp (handle : UInt32) (token vendorData : Bytes) (otpCapacity tokenCapacity : UInt32) :
    Except Status OtpRequest := do
  Negotiation.checkCapacity otpCapacity true
  Negotiation.checkCapacity tokenCapacity false
  match optionalHandle handle with
  | some _ => if token ≠ [] ∨ tokenCapacity ≠ 0 then throw .invalidInput
  | none => if token = [] then throw .invalidInput
  return ⟨optionalHandle handle, token, vendorData, otpCapacity, tokenCapacity⟩

/-- The operation that a request asks for, if its arguments are valid (the arms of `invoke`). -/
def operation (caller : Caller) : Request → Except Status Operation
  | init => return .init
  | deinit => return .deinit
  | getVersion => return .version
  -- Firmware updates are not offered.
  | doFwUpdate => throw .notImplemented
  | startProvisioning app => return .startProvisioning (← checkApp app)
  | endProvisioning app handle capacity => do
    let app ← checkApp app
    Negotiation.checkCapacity capacity true
    return .endProvisioning app handle capacity
  | sendData app handle dataType data => do
    let app ← checkApp app
    checkData data
    return .sendData app (optionalHandle handle) dataType data
  | processSvpMessage app handle data => do
    let app ← checkApp app
    checkData data
    return .sendData app (optionalHandle handle) svpDataType data
  | receiveData app handle dataType capacity => do
    let app ← checkApp app
    Negotiation.checkCapacity capacity true
    return .receiveData app (optionalHandle handle) dataType capacity
  | getSvpMessage app handle capacity => do
    let app ← checkApp app
    Negotiation.checkCapacity capacity true
    return .receiveData app (optionalHandle handle) svpDataType capacity
  | sendAndReceiveData app handle dataType data capacity => do
    let app ← checkApp app
    checkData data
    Negotiation.checkCapacity capacity true
    return .sendAndReceive app (optionalHandle handle) dataType data capacity
  | getCapabilities app capType capacity | getOtpCapabilities app capType capacity => do
    let app ← checkApp app
    Negotiation.checkCapacity capacity true
    return .capabilities app capType capacity
  | install app source | installOtps app source => do
    let app ← checkApp app
    return .install app (← checkSource source)
  | uninstall app | uninstallOtps app => return .uninstall (← checkApp app)
  | getOtp app handle token vendorData otpCapacity tokenCapacity => do
    let app ← checkApp app
    return .getOtp app (← checkOtp handle token vendorData otpCapacity tokenCapacity)
  | getOtpsStatus app handle statusType => do
    return .otpsStatus (← checkApp app) (optionalHandle handle) statusType
  | getAppInstance app => return .appInstance (← checkApp app)
  | registerEvents app handler => do
    let app ← checkApp app
    match handler with
    | some h => return .registerEvents app h
    | none => throw .invalidInput
  | unregisterEvents app => return .unregisterEvents (← checkApp app)
  | startInstance app handler => return .startInstance caller (← checkApp app) handler
  | stopInstance token =>
    if token = 0 then throw .invalidInstanceId else return .stopInstance caller token

end Request

/-- The reply to a negotiated output (`data_reply`). -/
def Reply.ofNegotiated {α : Type} (body : α → Reply.Body) : Negotiated α → Reply
  | .complete v => .ok (body v)
  | .tooSmall required => .tooSmall required

/-- The reply that carries an answer. -/
def Reply.ofAnswer : (s : BodyShape) → s.Answer → Reply
  | .empty, () => .ok .empty
  | .handle, h => .ok (.handle h)
  | .value, v => .ok (.value v)
  | .data, out => .ofNegotiated .data out
  | .otp, out => .ofNegotiated (fun o => .otp o.password o.token) out
  | .instanceToken, (token, flags) => .ok (.instanceToken token flags)

/-- A dispatcher in front of an operator in a state of type `σ` (`RpcEngine`). -/
structure Dispatcher (σ : Type) where
  operator : σ
  /-- What every request has to start with. -/
  descriptor : String
  /-- The number of transactions taken so far, successful or not. -/
  served : Nat := 0

namespace Dispatcher

variable {σ : Type} [Operator σ]

/-- Checks a request and performs the operation it asks for (`dispatch`). -/
def dispatch (caller : Caller) (request : Request) : StateM (Dispatcher σ) Reply := fun d =>
  match request.operation caller with
  | .error s => (.ofStatus s, d)
  | .ok o =>
    match (Operator.perform o).run d.operator with
    | (.ok answer, operator) => (.ofAnswer o.shape answer, { d with operator := operator })
    | (.error s, operator) => (.ofStatus s, { d with operator := operator })

/-- Takes a transaction and gives the envelope of its reply (`on_transact`). -/
def transact (caller : Caller) (code : UInt32) (envelope : Envelope) :
    StateM (Dispatcher σ) Envelope := fun d =>
  let d := { d with served := d.served + 1 }
  match Request.decode code d.descriptor envelope with
  | .error e => ((Reply.ofStatus e.status).encode, d)
  | .ok request =>
    let (reply, d) := (dispatch caller request).run d
    (reply.encode, d)

end Dispatcher

end AppletGateway
