import AppletGateway.Opcode

/-!
# Requests

A request carries its fields as they came: a handle or capacity of zero stands for an absent one,
and an app that is missing is for the validation to refuse. Its envelope is the interface
descriptor and then the fields that its opcode lays down, in order, with nothing after them.
-/

namespace AppletGateway

/-- A call with its arguments. -/
inductive Request
  | init
  | deinit
  | startProvisioning (app : Option String)
  | endProvisioning (app : Option String) (handle capacity : UInt32)
  | sendData (app : Option String) (handle dataType : UInt32) (data : Bytes)
  | receiveData (app : Option String) (handle dataType capacity : UInt32)
  | processSvpMessage (app : Option String) (handle : UInt32) (data : Bytes)
  | getSvpMessage (app : Option String) (handle capacity : UInt32)
  | sendAndReceiveData (app : Option String) (handle dataType : UInt32) (data : Bytes)
      (capacity : UInt32)
  | getCapabilities (app : Option String) (capType capacity : UInt32)
  | getVersion
  | install (app source : Option String)
  | uninstall (app : Option String)
  | doFwUpdate
  | getOtp (app : Option String) (handle : UInt32) (token vendorData : Bytes)
      (otpCapacity tokenCapacity : UInt32)
  | getOtpsStatus (app : Option String) (handle statusType : UInt32)
  | getOtpCapabilities (app : Option String) (capType capacity : UInt32)
  | installOtps (app source : Option String)
  | uninstallOtps (app : Option String)
  | getAppInstance (app : Option String)
  | registerEvents (app : Option String) (handler : Option Handler)
  | unregisterEvents (app : Option String)
  | startInstance (app : Option String) (handler : Option Handler)
  | stopInstance (token : UInt32)
  deriving DecidableEq, Inhabited

/-- The fields of a request after the interface descriptor. -/
def Opcode.layout : Opcode → List Envelope.Kind
  | init | deinit | getVersion | doFwUpdate => []
  | startProvisioning | uninstall | uninstallOtps | getAppInstance | unregisterEvents => [.text]
  | endProvisioning | getSvpMessage | getCapabilities | getOtpsStatus
  | getOtpCapabilities => [.text, .word, .word]
  | sendData => [.text, .word, .word, .blob]
  | receiveData => [.text, .word, .word, .word]
  | processSvpMessage => [.text, .word, .blob]
  | sendAndReceiveData => [.text, .word, .word, .blob, .word]
  | install | installOtps => [.text, .text]
  | getOtp => [.text, .word, .blob, .blob, .word, .word]
  | registerEvents | startInstance => [.text, .handler]
  | stopInstance => [.word]

/-- The names of the fields, in order. -/
def Opcode.fieldNames : Opcode → List String
  | init | deinit | getVersion | doFwUpdate => []
  | startProvisioning | uninstall | uninstallOtps | getAppInstance | unregisterEvents => ["app"]
  | endProvisioning | getSvpMessage => ["app", "handle", "capacity"]
  | getCapabilities | getOtpCapabilities => ["app", "cap_type", "capacity"]
  | getOtpsStatus => ["app", "handle", "status_type"]
  | sendData => ["app", "handle", "data_type", "data"]
  | receiveData => ["app", "handle", "data_type", "capacity"]
  | processSvpMessage => ["app", "handle", "data"]
  | sendAndReceiveData => ["app", "handle", "data_type", "data", "capacity"]
  | install | installOtps => ["app", "source"]
  | getOtp => ["app", "handle", "token", "vendor_data", "otp_capacity", "token_capacity"]
  | registerEvents | startInstance => ["app", "handler"]
  | stopInstance => ["instance"]

/-- Every field has a name. -/
theorem Opcode.length_fieldNames (o : Opcode) : o.fieldNames.length = o.layout.length := by
  cases o <;> rfl

namespace Request

/-- The call that a request makes. -/
def opcode : Request → Opcode
  | init => .init
  | deinit => .deinit
  | startProvisioning .. => .startProvisioning
  | endProvisioning .. => .endProvisioning
  | sendData .. => .sendData
  | receiveData .. => .receiveData
  | processSvpMessage .. => .processSvpMessage
  | getSvpMessage .. => .getSvpMessage
  | sendAndReceiveData .. => .sendAndReceiveData
  | getCapabilities .. => .getCapabilities
  | getVersion => .getVersion
  | install .. => .install
  | uninstall .. => .uninstall
  | doFwUpdate => .doFwUpdate
  | getOtp .. => .getOtp
  | getOtpsStatus .. => .getOtpsStatus
  | getOtpCapabilities .. => .getOtpCapabilities
  | installOtps .. => .installOtps
  | uninstallOtps .. => .uninstallOtps
  | getAppInstance .. => .getAppInstance
  | registerEvents .. => .registerEvents
  | unregisterEvents .. => .unregisterEvents
  | startInstance .. => .startInstance
  | stopInstance .. => .stopInstance

/-- The app that a request names, if its call has one and it is not absent. -/
def app? : Request → Option String
  | init | deinit | getVersion | doFwUpdate | stopInstance _ => none
  | startProvisioning app | endProvisioning app .. | sendData app .. | receiveData app ..
  | processSvpMessage app .. | getSvpMessage app .. | sendAndReceiveData app ..
  | getCapabilities app .. | install app _ | uninstall app | getOtp app .. | getOtpsStatus app ..
  | getOtpCapabilities app .. | installOtps app _ | uninstallOtps app | getAppInstance app
  | registerEvents app _ | unregisterEvents app | startInstance app _ => app

/-- The fields of a request, in order. -/
def fields : (r : Request) → Envelope.Fields r.opcode.layout
  | init | deinit | getVersion | doFwUpdate => ()
  | startProvisioning app => (app, ())
  | uninstall app => (app, ())
  | uninstallOtps app => (app, ())
  | getAppInstance app => (app, ())
  | unregisterEvents app => (app, ())
  | endProvisioning app handle capacity => (app, handle, capacity, ())
  | getSvpMessage app handle capacity => (app, handle, capacity, ())
  | getCapabilities app capType capacity => (app, capType, capacity, ())
  | getOtpCapabilities app capType capacity => (app, capType, capacity, ())
  | getOtpsStatus app handle statusType => (app, handle, statusType, ())
  | sendData app handle dataType data => (app, handle, dataType, data, ())
  | receiveData app handle dataType capacity => (app, handle, dataType, capacity, ())
  | processSvpMessage app handle data => (app, handle, data, ())
  | sendAndReceiveData app handle dataType data capacity =>
    (app, handle, dataType, data, capacity, ())
  | install app source => (app, source, ())
  | installOtps app source => (app, source, ())
  | getOtp app handle token vendorData otpCapacity tokenCapacity =>
    (app, handle, token, vendorData, otpCapacity, tokenCapacity, ())
  | registerEvents app handler => (app, handler, ())
  | startInstance app handler => (app, handler, ())
  | stopInstance token => (token, ())

/-- The request that makes a call with given fields (`decode`). -/
def ofFields : (o : Opcode) → Envelope.Fields o.layout → Request
  | .init, () => init
  | .deinit, () => deinit
  | .getVersion, () => getVersion
  | .doFwUpdate, () => doFwUpdate
  | .startProvisioning, (app, ()) => startProvisioning app
  | .uninstall, (app, ()) => uninstall app
  | .uninstallOtps, (app, ()) => uninstallOtps app
  | .getAppInstance, (app, ()) => getAppInstance app
  | .unregisterEvents, (app, ()) => unregisterEvents app
  | .endProvisioning, (app, handle, capacity, ()) => endProvisioning app handle capacity
  | .getSvpMessage, (app, handle, capacity, ()) => getSvpMessage app handle capacity
  | .getCapabilities, (app, capType, capacity, ()) => getCapabilities app capType capacity
  | .getOtpCapabilities, (app, capType, capacity, ()) => getOtpCapabilities app capType capacity
  | .getOtpsStatus, (app, handle, statusType, ()) => getOtpsStatus app handle statusType
  | .sendData, (app, handle, dataType, data, ()) => sendData app handle dataType data
  | .receiveData, (app, handle, dataType, capacity, ()) => receiveData app handle dataType capacity
  | .processSvpMessage, (app, handle, data, ()) => processSvpMessage app handle data
  | .sendAndReceiveData, (app, handle, dataType, data, capacity, ()) =>
    sendAndReceiveData app handle dataType data capacity
  | .install, (app, source, ()) => install app source
  | .installOtps, (app, source, ()) => installOtps app source
  | .getOtp, (app, handle, token, vendorData, otpCapacity, tokenCapacity, ()) =>
    getOtp app handle token vendorData otpCapacity tokenCapacity
  | .registerEvents, (app, handler, ()) => registerEvents app handler
  | .startInstance, (app, handler, ()) => startInstance app handler
  | .stopInstance, (token, ()) => stopInstance token

/-- The envelope of a request (`encode`). -/
def encode (r : Request) (descriptor : String) : Envelope :=
  Envelope.writeFields r.opcode.layout r.fields
    (Envelope.writeText (some descriptor) { data := [], objects := [] })

/-- Reads a whole request envelope: the interface first, then the call, then its fields
(`from_parcel`). -/
def read (code : UInt32) (descriptor : String) : Envelope.Read Request := do
  Envelope.readInterface descriptor
  match Opcode.ofCode? code with
  | none => throw (.unknownOpcode code)
  | some o =>
    let fields ← Envelope.readFields o.layout
    let left := (← get).rest.length
    if left ≠ 0 then throw (.trailing left)
    return ofFields o fields

/-- The request in an envelope. -/
def decode (code : UInt32) (descriptor : String) (e : Envelope) : Except EnvelopeError Request :=
  ((read code descriptor).run e.cursor).1

/-- A request is made again from its call and its fields. -/
theorem ofFields_fields (r : Request) : ofFields r.opcode r.fields = r := by
  cases r <;> rfl

/-- What is made for a call is a request for that call. -/
theorem opcode_ofFields (o : Opcode) (fields : Envelope.Fields o.layout) :
    (ofFields o fields).opcode = o := by
  cases o <;> rfl

end Request

end AppletGateway
