import AppletGateway.Negotiation
import AppletGateway.Packed

/-!
# Messages of the co-processor

What the gateway and the embedded apps say to each other. Every request is answered by exactly one
reply, and events may come in between at any time. All of them have a packed form: the tag of the
alternative and then its fields in order.

An operation expects one kind of reply. A reported failure is passed on with its code, and a reply
of another kind is an internal error.
-/

namespace AppletGateway.Applet

/-- Who raised an event (`EventSource`). -/
inductive Source
  /-- The embedded app itself. -/
  | applet
  /-- The firmware on behalf of the app. -/
  | firmware
  deriving DecidableEq, Inhabited

/-- The source for a raw number, if it stands for one (`from_raw`). -/
def Source.ofRaw? : UInt8 → Option Source
  | 0 => some .applet
  | 1 => some .firmware
  | _ => none

/-- A notification addressed to an app (`AppletEvent`). -/
structure Event where
  app : String
  data : Bytes
  source : Source
  deriving DecidableEq, Inhabited

/-- The handle that stands for no provisioning session (`NO_HANDLE`). -/
def noHandle : UInt32 := 0

/-- What the gateway asks of an embedded app or of its host (`AppletRequest`). -/
inductive Request
  /-- Opens a session with the app, or opens it anew, shared or exclusive. -/
  | openSession (app : String) (shared : Bool)
  | closeSession (app : String)
  | install (app source : String)
  | uninstall (app : String)
  | startProvisioning (app : String)
  | endProvisioning (app : String) (handle capacity : UInt32)
  | sendData (app : String) (handle dataType : UInt32) (data : Bytes)
  | receiveData (app : String) (handle dataType capacity : UInt32)
  | sendAndReceive (app : String) (handle dataType : UInt32) (data : Bytes) (capacity : UInt32)
  | capabilities (app : String) (capType capacity : UInt32)
  | getOtp (app : String) (handle : UInt32) (token vendorData : Bytes)
      (otpCapacity tokenCapacity : UInt32)
  | otpsStatus (app : String) (handle statusType : UInt32)
  | subscribe (app : String)
  | unsubscribe (app : String)
  deriving DecidableEq, Inhabited

/-- The short name of the kind of a request (`kind`). -/
def Request.kind : Request → String
  | openSession .. => "open"
  | closeSession _ => "close"
  | install .. => "install"
  | uninstall _ => "uninstall"
  | startProvisioning _ => "start-prov"
  | endProvisioning .. => "end-prov"
  | sendData .. => "send"
  | receiveData .. => "receive"
  | sendAndReceive .. => "send-receive"
  | capabilities .. => "caps"
  | getOtp .. => "otp"
  | otpsStatus .. => "otps-status"
  | subscribe _ => "subscribe"
  | unsubscribe _ => "unsubscribe"

/-- The answer to a request (`AppletReply`). -/
inductive Reply
  | done
  | handle (handle : UInt32)
  | value (value : UInt32)
  | data (data : Bytes)
  | otp (password token : Bytes)
  /-- A declared capacity was too small; these lengths are needed. -/
  | tooSmall (required : List UInt32)
  /-- The code of a failure, as the co-processor raised it. -/
  | failed (code : UInt32)
  deriving DecidableEq, Inhabited

/-- Whatever the co-processor sends (`Inbound`). -/
inductive Inbound
  | reply (reply : Reply)
  | event (event : Event)
  deriving DecidableEq, Inhabited

/-! ## Replies as results -/

namespace Reply

/-- The reply that carries a negotiated output (`from_data`). -/
def ofData : Negotiated Bytes → Reply
  | .complete d => .data d
  | .tooSmall required => .tooSmall required.toList

/-- The reply that reports a status (`failed`). -/
def ofStatus (s : Status) : Reply := failed s.code

/-- The result of a request that only gets done (`into_done`). -/
def asDone : Reply → Except Status Unit
  | done => .ok ()
  | failed code => .error (.ofCode code)
  | _ => .error .internalError

/-- The result of a request for a handle (`into_handle`). -/
def asHandle : Reply → Except Status UInt32
  | handle h => .ok h
  | failed code => .error (.ofCode code)
  | _ => .error .internalError

/-- The result of a request for a value (`into_value`). -/
def asValue : Reply → Except Status UInt32
  | value v => .ok v
  | failed code => .error (.ofCode code)
  | _ => .error .internalError

/-- The result of a request for one output (`into_data`). Data that is longer than the declared
capacity turns into "too small". -/
def asData (capacity : UInt32) : Reply → Except Status (Negotiated Bytes)
  | data d => .ok (Negotiation.fit d capacity)
  | tooSmall required => .ok (.tooSmall (.ofList required))
  | failed code => .error (.ofCode code)
  | _ => .error .internalError

/-- The result of a request for a one-time password and, if wanted, a refreshed token
(`into_otp`). -/
def asOtp (otpCapacity tokenCapacity : UInt32) : Reply → Except Status (Negotiated (Bytes × Bytes))
  | otp password token => .ok (Negotiation.fitPair password otpCapacity token tokenCapacity)
  | tooSmall required => .ok (.tooSmall (.ofList required))
  | failed code => .error (.ofCode code)
  | _ => .error .internalError

end Reply

/-! ## Packed forms -/

open Packed (pack unpack packTag unpackTag packList unpackList)

instance : Packed Source where
  pack
    | .applet => packTag 0
    | .firmware => packTag 1
  unpack := do
    match ← unpackTag with
    | 0 => return .applet
    | 1 => return .firmware
    | _ => failure

instance : Packed Event where
  pack e := pack e.app ++ pack e.data ++ pack e.source
  unpack := return ⟨← unpack, ← unpack, ← unpack⟩

instance : Packed Request where
  pack
    | .openSession app shared => packTag 0 ++ pack app ++ pack shared
    | .closeSession app => packTag 1 ++ pack app
    | .install app source => packTag 2 ++ pack app ++ pack source
    | .uninstall app => packTag 3 ++ pack app
    | .startProvisioning app => packTag 4 ++ pack app
    | .endProvisioning app handle capacity =>
      packTag 5 ++ pack app ++ pack handle ++ pack capacity
    | .sendData app handle dataType data =>
      packTag 6 ++ pack app ++ pack handle ++ pack dataType ++ pack data
    | .receiveData app handle dataType capacity =>
      packTag 7 ++ pack app ++ pack handle ++ pack dataType ++ pack capacity
    | .sendAndReceive app handle dataType data capacity =>
      packTag 8 ++ pack app ++ pack handle ++ pack dataType ++ pack data ++ pack capacity
    | .capabilities app capType capacity =>
      packTag 9 ++ pack app ++ pack capType ++ pack capacity
    | .getOtp app handle token vendorData otpCapacity tokenCapacity =>
      packTag 10 ++ pack app ++ pack handle ++ pack token ++ pack vendorData ++
        pack otpCapacity ++ pack tokenCapacity
    | .otpsStatus app handle statusType =>
      packTag 11 ++ pack app ++ pack handle ++ pack statusType
    | .subscribe app => packTag 12 ++ pack app
    | .unsubscribe app => packTag 13 ++ pack app
  unpack := do
    match ← unpackTag with
    | 0 => return .openSession (← unpack) (← unpack)
    | 1 => return .closeSession (← unpack)
    | 2 => return .install (← unpack) (← unpack)
    | 3 => return .uninstall (← unpack)
    | 4 => return .startProvisioning (← unpack)
    | 5 => return .endProvisioning (← unpack) (← unpack) (← unpack)
    | 6 => return .sendData (← unpack) (← unpack) (← unpack) (← unpack)
    | 7 => return .receiveData (← unpack) (← unpack) (← unpack) (← unpack)
    | 8 => return .sendAndReceive (← unpack) (← unpack) (← unpack) (← unpack) (← unpack)
    | 9 => return .capabilities (← unpack) (← unpack) (← unpack)
    | 10 =>
      return .getOtp (← unpack) (← unpack) (← unpack) (← unpack) (← unpack) (← unpack)
    | 11 => return .otpsStatus (← unpack) (← unpack) (← unpack)
    | 12 => return .subscribe (← unpack)
    | 13 => return .unsubscribe (← unpack)
    | _ => failure

instance : Packed Reply where
  pack
    | .done => packTag 0
    | .handle h => packTag 1 ++ pack h
    | .value v => packTag 2 ++ pack v
    | .data d => packTag 3 ++ pack d
    | .otp password token => packTag 4 ++ pack password ++ pack token
    | .tooSmall required => packTag 5 ++ packList required
    | .failed code => packTag 6 ++ pack code
  unpack := do
    match ← unpackTag with
    | 0 => return .done
    | 1 => return .handle (← unpack)
    | 2 => return .value (← unpack)
    | 3 => return .data (← unpack)
    | 4 => return .otp (← unpack) (← unpack)
    | 5 => return .tooSmall (← unpackList)
    | 6 => return .failed (← unpack)
    | _ => failure

instance : Packed Inbound where
  pack
    | .reply r => packTag 0 ++ pack r
    | .event e => packTag 1 ++ pack e
  unpack := do
    match ← unpackTag with
    | 0 => return .reply (← unpack)
    | 1 => return .event (← unpack)
    | _ => failure

end AppletGateway.Applet
