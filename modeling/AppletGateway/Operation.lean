import AppletGateway.Negotiation
import AppletGateway.Opcode

/-!
# Operations

The operations behind the calls of every version, with arguments that have passed the checks of the
wire: an app is a name, an absent handle is none. Each has an answer of a fixed shape. Whoever can
perform them is an `Operator`; the checks of session state are its own.
-/

namespace AppletGateway

/-- The arguments of a request for a one-time password. Either the handle or the token names the
provisioning context; what is empty or zero is absent. -/
structure OtpRequest where
  handle : Option UInt32 := none
  token : Bytes := []
  vendorData : Bytes := []
  otpCapacity : UInt32 := 0
  tokenCapacity : UInt32 := 0
  deriving DecidableEq, Inhabited

/-- A one-time password and, if it was wanted, the refreshed token. -/
structure Otp where
  password : Bytes
  token : Bytes
  deriving DecidableEq, Inhabited

/-- An operation with its arguments. -/
inductive Operation
  | init
  | deinit
  | version
  | startProvisioning (app : String)
  | endProvisioning (app : String) (handle capacity : UInt32)
  | sendData (app : String) (handle : Option UInt32) (dataType : UInt32) (data : Bytes)
  | receiveData (app : String) (handle : Option UInt32) (dataType capacity : UInt32)
  | sendAndReceive (app : String) (handle : Option UInt32) (dataType : UInt32) (data : Bytes)
      (capacity : UInt32)
  | capabilities (app : String) (capType capacity : UInt32)
  | install (app source : String)
  | uninstall (app : String)
  | getOtp (app : String) (request : OtpRequest)
  | otpsStatus (app : String) (handle : Option UInt32) (statusType : UInt32)
  | appInstance (app : String)
  | registerEvents (app : String) (handler : Handler)
  | unregisterEvents (app : String)
  | startInstance (caller : Caller) (app : String) (handler : Option Handler)
  | stopInstance (caller : Caller) (token : UInt32)
  deriving DecidableEq, Inhabited

/-- What an answer of a shape is. -/
abbrev BodyShape.Answer : BodyShape → Type
  | empty => Unit
  | handle => UInt32
  | value => UInt32
  | data => Negotiated Bytes
  | otp => Negotiated Otp
  | instanceToken => UInt32 × UInt32

/-- The shape of an operation's answer. -/
def Operation.shape : Operation → BodyShape
  | init | deinit | sendData .. | install .. | uninstall _ | registerEvents ..
  | unregisterEvents _ | stopInstance .. => .empty
  | startProvisioning _ => .handle
  | version | otpsStatus .. | startInstance .. => .value
  | endProvisioning .. | receiveData .. | sendAndReceive .. | capabilities .. => .data
  | getOtp .. => .otp
  | appInstance _ => .instanceToken

/-- What an operation answers if it succeeds. -/
abbrev Operation.Answer (o : Operation) : Type := o.shape.Answer

/-- A step over a state that can end with a status; the state changes even then. -/
abbrev Act (σ : Type) := ExceptT Status (StateM σ)

/-- Whatever, in a state of type `σ`, can perform the operations. -/
class Operator (σ : Type) where
  perform : (o : Operation) → Act σ o.Answer

end AppletGateway
