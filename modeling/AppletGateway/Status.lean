/-!
# Status codes

The result code that every reply starts with. The numeric space is closed and only grows: a code
that has a name keeps it, and a code without one is kept as it came, sorted by its range into
embedded-app codes, runtime codes and unknown codes.

Main statements:

* `Status.code_ofCode`: reading a code loses nothing, whatever the number.
* `Status.ofCode_code_of_mem`: every named status is the one read from its own code.
-/

namespace AppletGateway

/-- The outcome of a call, as a caller sees it. -/
inductive Status
  | success
  | internalError
  | insufficientBuffer
  | memory
  | invalidInput
  | notImplemented
  | commsError
  | invalidRequest
  | libraryNotInitialized
  | fwUpdateFailed
  | fwUpdateInProgress
  | fwUpdateCallFailed
  | fwUpdateNoneAvailable
  | fwUpdateServiceBusy
  | fwUpdateNotReady
  | notRegisteredForEvents
  | alreadyRegistered
  | eventsNotSupported
  | appletFatal
  | appletMissingSource
  | appletAuthFailed
  | appletFileError
  | appletNotInstalled
  | invalidAppId
  | appletInvalidFileExtension
  | appletFileErrorRead
  | appletInvalidFormat
  | appletAppIdMismatch
  | maxAppletsInstalled
  | appletInstallFailed
  | appletUninstallFailed
  | appletSessionUnavailable
  | invalidInstanceId
  | closingInstanceId
  | invalidProcess
  | appletInvalidHandle
  | appletUnexpectedCall
  | appletInvalidToken
  | appletInvalidMessage
  | appletInvalidType
  | appletInvalidLength
  /-- An embedded-app code without a name of its own. -/
  | applet (code : UInt32)
  | protoError
  | runtimeInternalError
  | runtimeNotInitialized
  | driverAccessDenied
  | driverNotFound
  | instanceUnavailable
  | instanceAlreadyAvailable
  | deviceIdNotSet
  | cannotDeinitWithOpenInstance
  /-- A runtime code without a name of its own. -/
  | runtime (code : UInt32)
  /-- A code outside the known ranges. -/
  | unknown (code : UInt32)
  deriving DecidableEq, Inhabited

namespace Status

/-- What a status asks of its receiver (`ErrorClass`). -/
inductive Class
  | success
  /-- The input was invalid or missing; the call is never retried. -/
  | caller
  /-- An output did not fit; the call is retried once with the corrected length. -/
  | bufferTooSmall
  /-- The co-processor could not be reached; the call may be made again later. -/
  | transport
  | resource
  /-- The call does not fit the state of the session. -/
  | sessionState
  /-- The co-processor reported a failure of its own. -/
  | applet
  | notImplemented
  | internal
  deriving DecidableEq, Inhabited

/-- The number that stands for a status on the wire (`code`). -/
def code : Status → UInt32
  | success => 0
  | internalError => 10
  | insufficientBuffer => 11
  | memory => 12
  | invalidInput => 13
  | notImplemented => 14
  | commsError => 15
  | invalidRequest => 16
  | libraryNotInitialized => 101
  | fwUpdateFailed => 105
  | fwUpdateInProgress => 106
  | fwUpdateCallFailed => 107
  | fwUpdateNoneAvailable => 108
  | fwUpdateServiceBusy => 109
  | fwUpdateNotReady => 110
  | notRegisteredForEvents => 120
  | alreadyRegistered => 121
  | eventsNotSupported => 122
  | appletFatal => 150
  | appletMissingSource => 151
  | appletAuthFailed => 152
  | appletFileError => 153
  | appletNotInstalled => 154
  | invalidAppId => 155
  | appletInvalidFileExtension => 156
  | appletFileErrorRead => 157
  | appletInvalidFormat => 158
  | appletAppIdMismatch => 159
  | maxAppletsInstalled => 160
  | appletInstallFailed => 161
  | appletUninstallFailed => 162
  | appletSessionUnavailable => 163
  | invalidInstanceId => 170
  | closingInstanceId => 171
  | invalidProcess => 172
  | appletInvalidHandle => 201
  | appletUnexpectedCall => 202
  | appletInvalidToken => 207
  | appletInvalidMessage => 208
  | appletInvalidType => 209
  | appletInvalidLength => 210
  | protoError => 301
  | runtimeInternalError => 401
  | runtimeNotInitialized => 402
  | driverAccessDenied => 403
  | driverNotFound => 404
  | instanceUnavailable => 405
  | instanceAlreadyAvailable => 406
  | deviceIdNotSet => 407
  | cannotDeinitWithOpenInstance => 408
  | applet c => c
  | runtime c => c
  | unknown c => c

/-- The statuses that have a name and a fixed code. -/
def named : List Status :=
  [success, internalError, insufficientBuffer, memory, invalidInput, notImplemented, commsError,
    invalidRequest, libraryNotInitialized, fwUpdateFailed, fwUpdateInProgress, fwUpdateCallFailed,
    fwUpdateNoneAvailable, fwUpdateServiceBusy, fwUpdateNotReady, notRegisteredForEvents,
    alreadyRegistered, eventsNotSupported, appletFatal, appletMissingSource, appletAuthFailed,
    appletFileError, appletNotInstalled, invalidAppId, appletInvalidFileExtension,
    appletFileErrorRead, appletInvalidFormat, appletAppIdMismatch, maxAppletsInstalled,
    appletInstallFailed, appletUninstallFailed, appletSessionUnavailable, invalidInstanceId,
    closingInstanceId, invalidProcess, appletInvalidHandle, appletUnexpectedCall,
    appletInvalidToken, appletInvalidMessage, appletInvalidType, appletInvalidLength, protoError,
    runtimeInternalError, runtimeNotInitialized, driverAccessDenied, driverNotFound,
    instanceUnavailable, instanceAlreadyAvailable, deviceIdNotSet, cannotDeinitWithOpenInstance]

/-- The status that keeps a code without a name: its range says who raised it. -/
def unnamed (c : UInt32) : Status :=
  if 201 ≤ c ∧ c ≤ 299 then applet c
  else if 401 ≤ c ∧ c ≤ 499 then runtime c
  else unknown c

/-- The status a code stands for (`from_code`). Total: a code without a name is preserved. -/
def ofCode (c : UInt32) : Status :=
  (named.find? fun s => s.code == c).getD (unnamed c)

/-- Whether a status is the one its own code is read as. -/
def Canonical (s : Status) : Prop := ofCode s.code = s

instance (s : Status) : Decidable s.Canonical := inferInstanceAs (Decidable (_ = _))

/-- The group a status belongs to (`class`). -/
def category : Status → Class
  | success => .success
  | insufficientBuffer => .bufferTooSmall
  | invalidInput | invalidAppId | appletMissingSource | appletInvalidFileExtension
  | invalidInstanceId | invalidProcess => .caller
  | commsError | runtimeNotInitialized | driverAccessDenied | driverNotFound
  | deviceIdNotSet => .transport
  | memory => .resource
  | invalidRequest | libraryNotInitialized | notRegisteredForEvents | alreadyRegistered
  | eventsNotSupported | appletNotInstalled | appletSessionUnavailable | closingInstanceId
  | instanceUnavailable | instanceAlreadyAvailable | cannotDeinitWithOpenInstance => .sessionState
  | notImplemented => .notImplemented
  | internalError | runtimeInternalError | runtime _ | unknown _ => .internal
  | fwUpdateFailed | fwUpdateInProgress | fwUpdateCallFailed | fwUpdateNoneAvailable
  | fwUpdateServiceBusy | fwUpdateNotReady | appletFatal | appletAuthFailed | appletFileError
  | appletFileErrorRead | appletInvalidFormat | appletAppIdMismatch | maxAppletsInstalled
  | appletInstallFailed | appletUninstallFailed | appletInvalidHandle | appletUnexpectedCall
  | appletInvalidToken | appletInvalidMessage | appletInvalidType | appletInvalidLength
  | applet _ | protoError => .applet

/-- Only a failure to reach the co-processor is worth making the whole call again
(`is_retryable`). -/
def isRetryable (s : Status) : Bool := s.category = .transport

/-- The wording of a status. -/
def message : Status → String
  | success => "success"
  | internalError => "internal error"
  | insufficientBuffer => "output buffer length insufficient"
  | memory => "unable to allocate memory"
  | invalidInput => "invalid input"
  | notImplemented => "not implemented"
  | commsError => "communication error with co-processor"
  | invalidRequest => "request invalid in current state"
  | libraryNotInitialized => "library not initialized"
  | fwUpdateFailed => "firmware update failed"
  | fwUpdateInProgress => "firmware update in progress"
  | fwUpdateCallFailed => "firmware update call failed"
  | fwUpdateNoneAvailable => "no firmware update available"
  | fwUpdateServiceBusy => "firmware update service busy"
  | fwUpdateNotReady => "firmware update component not ready"
  | notRegisteredForEvents => "not registered for events"
  | alreadyRegistered => "already registered for events"
  | eventsNotSupported => "events not supported in shared mode"
  | appletFatal => "embedded app fatal error"
  | appletMissingSource => "embedded app source missing"
  | appletAuthFailed => "embedded app authentication failed"
  | appletFileError => "embedded app file error"
  | appletNotInstalled => "embedded app not installed"
  | invalidAppId => "invalid app id"
  | appletInvalidFileExtension => "invalid embedded app file extension"
  | appletFileErrorRead => "could not read embedded app file"
  | appletInvalidFormat => "invalid embedded app format"
  | appletAppIdMismatch => "embedded app id mismatch"
  | maxAppletsInstalled => "maximum embedded apps installed"
  | appletInstallFailed => "embedded app install failed"
  | appletUninstallFailed => "embedded app uninstall failed"
  | appletSessionUnavailable => "no exclusive embedded app session"
  | invalidInstanceId => "invalid instance id"
  | closingInstanceId => "instance is closing"
  | invalidProcess => "instance owned by another process"
  | appletInvalidHandle => "embedded app: invalid handle"
  | appletUnexpectedCall => "embedded app: unexpected call"
  | appletInvalidToken => "embedded app: invalid token"
  | appletInvalidMessage => "embedded app: invalid message"
  | appletInvalidType => "embedded app: invalid data type"
  | appletInvalidLength => "embedded app: invalid length"
  | applet c => "embedded app error " ++ toString c.toNat
  | protoError => "embedded app protocol error"
  | runtimeInternalError => "runtime internal error"
  | runtimeNotInitialized => "runtime not initialized"
  | driverAccessDenied => "access to the device driver denied"
  | driverNotFound => "device driver not found"
  | instanceUnavailable => "instance unavailable"
  | instanceAlreadyAvailable => "instance already available"
  | deviceIdNotSet => "device id not set"
  | cannotDeinitWithOpenInstance => "cannot deinit with an open instance"
  | runtime c => "runtime error " ++ toString c.toNat
  | unknown c => "unknown status " ++ toString c.toNat

/-! ## Codes and statuses -/

theorem code_unnamed (c : UInt32) : (unnamed c).code = c := by
  unfold unnamed
  split
  · rfl
  · split <;> rfl

/-- No code is lost by reading it. -/
theorem code_ofCode (c : UInt32) : (ofCode c).code = c := by
  unfold ofCode
  cases h : named.find? fun s => s.code == c with
  | none => exact code_unnamed c
  | some s => simpa using List.find?_some h

/-- A named status is read from its own code. -/
theorem ofCode_code_of_mem : ∀ s ∈ named, ofCode s.code = s := by decide

end Status

/-- A failure, on the wire or inside the gateway's own process (`Error`). -/
inductive Fault
  /-- The configuration is invalid or could not be loaded. -/
  | config (detail : String)
  /-- A part of the gateway failed to start. -/
  | start (part : String)
  /-- A call failed with a status. -/
  | status (s : Status)
  deriving DecidableEq, Inhabited

/-- The wording of a failure. -/
def Fault.message : Fault → String
  | config detail => "config: " ++ detail
  | start part => "init: " ++ part
  | status s => "status " ++ toString s.code.toNat ++ ": " ++ s.message

end AppletGateway
