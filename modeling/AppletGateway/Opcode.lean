import AppletGateway.Envelope

/-!
# Opcodes

The calls that the gateway serves, numbered from 1 in the order in which they were introduced, and
for each what its reply carries. Adding a call means adding a row.

Main statements:

* `Opcode.ofCode?_code`: every opcode is found by its number.
* `Opcode.code_of_ofCode?`: an opcode found by a number has that number.
-/

namespace AppletGateway

/-- The calls. -/
inductive Opcode
  | init
  | deinit
  | startProvisioning
  | endProvisioning
  | sendData
  | receiveData
  | processSvpMessage
  | getSvpMessage
  | sendAndReceiveData
  | getCapabilities
  | getVersion
  | install
  | uninstall
  | doFwUpdate
  | getOtp
  | getOtpsStatus
  | getOtpCapabilities
  | installOtps
  | uninstallOtps
  | getAppInstance
  | registerEvents
  | unregisterEvents
  | startInstance
  | stopInstance
  deriving DecidableEq, Inhabited

/-- The interface that a call belongs to (`ApiLevel`). -/
inductive Family
  /-- The life cycle of the library, shared by all. -/
  | library
  /-- The calls of the first version. -/
  | otps
  /-- The calls of the second version. -/
  | iha
  /-- The calls of the third version, which name instances. -/
  | instances
  deriving DecidableEq, Inhabited

/-- What a successful reply carries after its status (`BodyShape`). -/
inductive BodyShape
  | empty
  /-- A provisioning handle. -/
  | handle
  /-- One word: a version, a status word or an instance token. -/
  | value
  /-- One negotiated blob. -/
  | data
  /-- A one-time password and a refreshed token. -/
  | otp
  /-- An instance token and sharing flags. -/
  | instanceToken
  deriving DecidableEq, Inhabited

/-- The fields of a body. -/
def BodyShape.layout : BodyShape → List Envelope.Kind
  | empty => []
  | handle => [.word]
  | value => [.word]
  | data => [.blob]
  | otp => [.blob, .blob]
  | instanceToken => [.word, .word]

/-- The names of the fields, in order. -/
def BodyShape.fieldNames : BodyShape → List String
  | empty => []
  | handle => ["handle"]
  | value => ["value"]
  | data => ["data"]
  | otp => ["otp", "token"]
  | instanceToken => ["id", "flags"]

/-- Every field of a body has a name. -/
theorem BodyShape.length_fieldNames (s : BodyShape) : s.fieldNames.length = s.layout.length := by
  cases s <;> rfl

namespace Opcode

/-- What is fixed for a call (`OpDescriptor`). -/
structure Row where
  name : String
  family : Family
  body : BodyShape
  /-- How many lengths an answer "too small" carries. -/
  outputs : Nat
  /-- Whether the call changes the session of its app. -/
  mutates : Bool

/-- The table of calls (`descriptor`). -/
def row : Opcode → Row
  | init => ⟨"Init", .library, .empty, 0, false⟩
  | deinit => ⟨"DeInit", .library, .empty, 0, true⟩
  | startProvisioning => ⟨"StartProvisioning", .iha, .handle, 0, true⟩
  | endProvisioning => ⟨"EndProvisioning", .iha, .data, 1, true⟩
  | sendData => ⟨"SendData", .iha, .empty, 0, false⟩
  | receiveData => ⟨"ReceiveData", .iha, .data, 1, false⟩
  | processSvpMessage => ⟨"ProcessSVPMessage", .otps, .empty, 0, false⟩
  | getSvpMessage => ⟨"GetSVPMessage", .otps, .data, 1, false⟩
  | sendAndReceiveData => ⟨"SendAndReceiveData", .iha, .data, 1, false⟩
  | getCapabilities => ⟨"GetCapabilities", .iha, .data, 1, false⟩
  | getVersion => ⟨"GetVersion", .library, .value, 0, false⟩
  | install => ⟨"Install", .iha, .empty, 0, true⟩
  | uninstall => ⟨"Uninstall", .iha, .empty, 0, true⟩
  | doFwUpdate => ⟨"DoFWUpdate", .library, .empty, 0, false⟩
  | getOtp => ⟨"GetOTP", .iha, .otp, 2, false⟩
  | getOtpsStatus => ⟨"GetOTPSStatus", .otps, .value, 0, false⟩
  | getOtpCapabilities => ⟨"GetOTPCapabilities", .otps, .data, 1, false⟩
  | installOtps => ⟨"InstallOTPS", .otps, .empty, 0, true⟩
  | uninstallOtps => ⟨"UninstallOTPS", .otps, .empty, 0, true⟩
  | getAppInstance => ⟨"GetAppInstId", .iha, .instanceToken, 0, false⟩
  | registerEvents => ⟨"RegisterEventCb", .iha, .empty, 0, true⟩
  | unregisterEvents => ⟨"UnregisterEventCb", .iha, .empty, 0, true⟩
  | startInstance => ⟨"StartInstance", .instances, .value, 0, true⟩
  | stopInstance => ⟨"StopInstance", .instances, .empty, 0, true⟩

/-- All calls, in the order of their numbers (`ALL`). -/
def all : List Opcode :=
  [init, deinit, startProvisioning, endProvisioning, sendData, receiveData, processSvpMessage,
    getSvpMessage, sendAndReceiveData, getCapabilities, getVersion, install, uninstall, doFwUpdate,
    getOtp, getOtpsStatus, getOtpCapabilities, installOtps, uninstallOtps, getAppInstance,
    registerEvents, unregisterEvents, startInstance, stopInstance]

/-- The number of a call (`code`). -/
def code (o : Opcode) : UInt32 := UInt32.ofNat (all.idxOf o + 1)

/-- The call with a number (`from_code`). -/
def ofCode? (c : UInt32) : Option Opcode := all.find? fun o => o.code == c

/-- The name for the number of a call in log lines (`opcode_name`). -/
def logName (c : UInt32) : String :=
  match ofCode? c with
  | some o => o.row.name
  | none => "unknown"

/-- Every call is found by its number. -/
theorem ofCode?_code (o : Opcode) : ofCode? o.code = some o := by
  cases o <;> decide

/-- A call found by a number has that number. -/
theorem code_of_ofCode? {c : UInt32} {o : Opcode} (h : ofCode? c = some o) : o.code = c := by
  simpa using List.find?_some h

end Opcode

end AppletGateway
