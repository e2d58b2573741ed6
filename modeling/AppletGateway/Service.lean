import AppletGateway.Link
import AppletGateway.Operation
import AppletGateway.Session.Registry

/-!
# The session service

The operations on top of the registry and the link. The check of an app's state, the exchange with
the co-processor and the change of the row make one update of that app's row.

A session is opened when an operation first needs it. One that was opened on an earlier connection
is gone: it is opened again, its provisioning handle is forgotten, and its events are subscribed to
again if a handler is bound. Notifications need an exclusive session, so binding a handler closes a
shared one first.
-/

namespace AppletGateway

open Applet (Event noHandle)

/-- Which operations are offered at all (`ServiceOptions`). -/
structure ServiceOptions where
  installEnabled : Bool := true
  eventsEnabled : Bool := true
  deriving DecidableEq, Inhabited

/-- The service over a link whose channel has a state of type `τ` (`SessionService`). -/
structure Service (τ : Type) where
  link : Link τ
  registry : Registry := {}
  options : ServiceOptions := {}

/-- What an operation on one app can see and change. -/
structure Service.Turn (τ : Type) where
  row : Row
  tokens : Tokens
  link : Link τ

namespace Service

variable {τ : Type} [Transport τ] {α : Type}

/-- The version of the interface: major and minor in the high and the low half. -/
def version : UInt32 := 0x00030000

/-- The sharing flag of an exclusive session. -/
def nonShared : UInt32 := 0

/-- A step of an operation on one app. -/
abbrev OnRow (τ : Type) := Act (Turn τ)

/-! ## Access to the parts -/

/-- Runs a step on the row of an app, which is made if it is missing (`with_entry`). -/
def onRow (app : String) (step : OnRow τ α) : Act (Service τ) α := fun s =>
  let ((result, link), registry) := (s.registry.updateRow app fun f =>
    let (result, t) := step.run ⟨f.row, f.tokens, s.link⟩
    ((result, t.link), ⟨t.row, t.tokens⟩))
  (result, { s with registry := registry, link := link })

/-- Runs a step on the row of an app, or fails with `missing` if there is none (`with_existing`). -/
def onExisting (app : String) (missing : Status) (step : OnRow τ α) : Act (Service τ) α := do
  if ((← get).registry.row? app).isNone then throw missing
  onRow app step

/-- Runs a step of the link. -/
def viaLink (step : Link.Run τ α) : OnRow τ α := fun t =>
  let (result, link) := step.run t.link
  (result.mapError LinkError.status, { t with link := link })

/-- Exchanges a request for its reply (`call`). -/
def call (request : Applet.Request) : OnRow τ Applet.Reply := viaLink (Link.exchange request)

/-- Goes on with a result. -/
def ofExcept {σ : Type} : Except Status α → Act σ α
  | .ok a => return a
  | .error s => throw s

/-- Changes the row. -/
def modifyRow (change : Row → Row) : OnRow τ Unit := modify fun t => { t with row := change t.row }

/-- Changes the row in a way that can fail. -/
def changeRow (change : Row → Except Status Row) : OnRow τ Unit := do
  let row ← ofExcept (change (← get).row)
  modifyRow fun _ => row

/-- The token of the row: the one it has, or a new one (`issue_instance`). -/
def issueToken (owner : ProcessId) : OnRow τ UInt32 := fun t =>
  let (id, f) := (Registry.issueToken owner).run ⟨t.row, t.tokens⟩
  (.ok id, { t with row := f.row, tokens := f.tokens })

/-! ## Preconditions -/

/-- The link has to be connected (`require_init`). -/
def requireInit : Act (Service τ) Unit := do
  if !(← get).link.connected then throw .libraryNotInitialized

/-- Events have to be enabled (`events_gate`). -/
def requireEvents : Act (Service τ) Unit := do
  if !(← get).options.eventsEnabled then throw .notImplemented

/-- Installing has to be enabled (`install_gate`). -/
def requireInstall : Act (Service τ) Unit := do
  if !(← get).options.installEnabled then throw .notImplemented

/-- The handle to send: one that the caller gives has to be the active one (`session_handle`). -/
def sessionHandle : Option UInt32 → OnRow τ UInt32
  | none => return noHandle
  | some handle => do
    ofExcept ((← get).row.expectProvisioning handle)
    return handle

/-! ## Opening and closing sessions -/

/-- Forgets a session that was opened on an earlier connection, and its provisioning handle (the
start of `ensure_loaded`). -/
def dropStale : OnRow τ Unit := do
  let t ← get
  if t.row.loaded ∧ t.row.openedOn ≠ t.link.epoch then
    modifyRow fun row => { row with loaded := false }.endProvisioning

/-- Subscribes to the events of the app (in `ensure_loaded` and `register_events`). -/
def subscribe : OnRow τ Unit := do
  ofExcept (← call (.subscribe (← get).row.app)).asDone

/-- Opens a session with the app unless one is open on the current connection (`ensure_loaded`). -/
def ensureLoaded : OnRow τ Unit := do
  dropStale
  let t ← get
  if t.row.loaded then return
  ofExcept (← call (.openSession t.row.app t.row.shared)).asDone
  modifyRow fun row => { row with loaded := true, openedOn := t.link.epoch }
  if t.row.callback.isSome then subscribe

/-- Makes a request whose failure is of no consequence. -/
def callQuietly (request : Applet.Request) : OnRow τ Unit := do
  try
    let _ ← call request
    return
  catch _ => return

/-- Closes the session, if one is open, whether or not the co-processor agrees (`close_quietly`). -/
def closeQuietly : OnRow τ Unit := do
  let row := (← get).row
  if row.loaded then
    callQuietly (.closeSession row.app)
    modifyRow fun row => { row with loaded := false }

/-- Ends the subscription, if a handler is bound, whether or not the co-processor agrees
(`unsubscribe_quietly`). -/
def unsubscribeQuietly : OnRow τ Unit := do
  let row := (← get).row
  if row.callback.isSome then callQuietly (.unsubscribe row.app)

/-- Makes the session an exclusive one; a shared one is closed (in `register_events` and
`start_instance`). -/
def makeExclusive : OnRow τ Unit := do
  let row := (← get).row
  if row.loaded ∧ row.shared then closeQuietly
  modifyRow fun row => { row with shared := false }

/-! ## The life of the link -/

/-- Connects the link (`init`). -/
def init : Act (Service τ) Unit := fun s =>
  let (result, link) := Link.connect.run s.link
  (result.mapError LinkError.status, { s with link := link })

/-- Ends what a row stands for on the co-processor, as far as that can be done (in `deinit`). -/
def closeDrained (row : Row) : StateM (Link τ) Unit := do
  if row.callback.isSome then
    let _ ← (Link.exchange (.unsubscribe row.app)).run
  if row.loaded then
    let _ ← (Link.exchange (.closeSession row.app)).run

/-- Drops all rows, ends their sessions and disconnects the link (`deinit`). Without a connection
nothing is done. -/
def deinit : Act (Service τ) Unit := fun s =>
  if s.link.connected then
    let (rows, registry) := Registry.drain.run s.registry
    let ((), link) := (do rows.forM closeDrained; Link.disconnect : StateM (Link τ) Unit).run s.link
    (.ok (), { s with registry := registry, link := link })
  else (.ok (), s)

/-- Hands on the events that have arrived, and counts them (`poll_events`). -/
def pollEvents : Act (Service τ) Nat := fun s =>
  let (result, link) := Link.pollEvents.run s.link
  (result.mapError LinkError.status, { s with link := link })

/-- The events handed on since they were last taken. -/
def takeEvents : StateM (Service τ) (List Event) := fun s =>
  (s.link.emitted, { s with link := { s.link with emitted := [] } })

/-! ## Provisioning -/

/-- Starts a provisioning session; only one can be active (`start_provisioning`). -/
def startProvisioning (app : String) : Act (Service τ) UInt32 := do
  requireInit
  onRow app do
    if (← get).row.provisioning.isSome then throw .invalidRequest
    ensureLoaded
    let handle ← ofExcept (← call (.startProvisioning app)).asHandle
    changeRow (Row.beginProvisioning handle)
    return handle

/-- Ends a provisioning session and gives its token (`end_provisioning`). The handle stays active
after "too small", so that the caller can ask again, and after a failure that is not the app's
own. -/
def endProvisioning (app : String) (handle capacity : UInt32) :
    Act (Service τ) (Negotiated Bytes) := do
  requireInit
  onExisting app .invalidRequest do
    ofExcept ((← get).row.expectProvisioning handle)
    match (← call (.endProvisioning app handle capacity)).asData capacity with
    | .ok (.complete token) => do
      modifyRow Row.endProvisioning
      return .complete token
    | .ok (.tooSmall required) => return .tooSmall required
    | .error s => do
      if s.category = .applet then modifyRow Row.endProvisioning
      throw s

/-! ## Data -/

/-- Sends data to the app (`send_data`). -/
def sendData (app : String) (handle : Option UInt32) (dataType : UInt32) (data : Bytes) :
    Act (Service τ) Unit := do
  requireInit
  if data = [] then throw .invalidInput
  onRow app do
    let handle ← sessionHandle handle
    ensureLoaded
    ofExcept (← call (.sendData app handle dataType data)).asDone

/-- Makes a request for one output of an open session (`data_call`). -/
def dataCall (app : String) (handle : Option UInt32) (capacity : UInt32)
    (request : UInt32 → Applet.Request) : Act (Service τ) (Negotiated Bytes) := do
  requireInit
  onRow app do
    let handle ← sessionHandle handle
    ensureLoaded
    ofExcept ((← call (request handle)).asData capacity)

/-- Receives data from the app (`receive_data`). -/
def receiveData (app : String) (handle : Option UInt32) (dataType capacity : UInt32) :
    Act (Service τ) (Negotiated Bytes) := do
  if capacity = 0 then throw .invalidInput
  dataCall app handle capacity fun handle => .receiveData app handle dataType capacity

/-- Sends data to the app and receives its answer (`send_and_receive`). -/
def sendAndReceive (app : String) (handle : Option UInt32) (dataType : UInt32) (data : Bytes)
    (capacity : UInt32) : Act (Service τ) (Negotiated Bytes) := do
  if data = [] ∨ capacity = 0 then throw .invalidInput
  dataCall app handle capacity fun handle => .sendAndReceive app handle dataType data capacity

/-- Asks for a capability of the app (`capabilities`). -/
def capabilities (app : String) (capType capacity : UInt32) :
    Act (Service τ) (Negotiated Bytes) := do
  if capacity = 0 then throw .invalidInput
  dataCall app none capacity fun _ => .capabilities app capType capacity

/-- Asks for a one-time password (`get_otp`). -/
def getOtp (app : String) (request : OtpRequest) : Act (Service τ) (Negotiated Otp) := do
  if request.otpCapacity = 0 then throw .invalidInput
  if request.handle.isNone ∧ request.token = [] then throw .invalidInput
  requireInit
  onRow app do
    let handle ← sessionHandle request.handle
    ensureLoaded
    let reply ← call (.getOtp app handle request.token request.vendorData request.otpCapacity
      request.tokenCapacity)
    let out ← ofExcept (reply.asOtp request.otpCapacity request.tokenCapacity)
    return out.map fun (password, token) => ⟨password, token⟩

/-- Asks for a status word of the app (`otps_status`). -/
def otpsStatus (app : String) (handle : Option UInt32) (statusType : UInt32) :
    Act (Service τ) UInt32 := do
  requireInit
  onRow app do
    let handle ← sessionHandle handle
    ensureLoaded
    ofExcept (← call (.otpsStatus app handle statusType)).asValue

/-! ## Installing -/

/-- Installs an app and opens a session with it (`install`). -/
def install (app source : String) : Act (Service τ) Unit := do
  requireInstall
  requireInit
  onRow app do
    ofExcept (← call (.install app source)).asDone
    ensureLoaded

/-- Closes the session with an app, uninstalls it and drops its row (`uninstall`). -/
def uninstall (app : String) : Act (Service τ) Unit := do
  requireInstall
  requireInit
  onRow app do
    unsubscribeQuietly
    closeQuietly
    ofExcept (← call (.uninstall app)).asDone
    modifyRow Row.retire

/-! ## Events and instances -/

/-- Binds a handler to the events of an app (`register_events`). -/
def registerEvents (app : String) (handler : Handler) : Act (Service τ) Unit := do
  requireEvents
  requireInit
  onRow app do
    if ← ofExcept ((← get).row.checkBind handler) then return
    makeExclusive
    ensureLoaded
    subscribe
    changeRow (Row.bind handler)

/-- Unbinds the handler of an app's events, if there is one (`unregister_events`). -/
def unregisterEvents (app : String) : Act (Service τ) Unit := do
  requireInit
  if ((← get).registry.row? app).isNone then return
  onRow app do
    unsubscribeQuietly
    modifyRow Row.unbind

/-- The instance token and the sharing flag of the app's exclusive session (`app_instance`). -/
def appInstance (app : String) : Act (Service τ) (UInt32 × UInt32) := do
  requireInit
  onExisting app .appletSessionUnavailable do
    let row := (← get).row
    if !row.loaded || row.shared then throw .appletSessionUnavailable
    let id ← issueToken (row.owner.getD .self)
    return (id, nonShared)

/-- Starts an instance of an app for a caller, with a handler of its events if one is given
(`start_instance`). -/
def startInstance (caller : Caller) (app : String) (handler : Option Handler) :
    Act (Service τ) UInt32 := do
  if handler.isSome then requireEvents
  requireInit
  onRow app do
    if (← get).row.token.isSome then throw .instanceAlreadyAvailable
    match handler with
    | none => ensureLoaded
    | some h => do
      let _ ← ofExcept ((← get).row.checkBind h)
      makeExclusive
      ensureLoaded
      subscribe
      changeRow (Row.bind h)
    issueToken caller.process

/-- Stops an instance that the caller started, and drops the row of its app (`stop_instance`). -/
def stopInstance (caller : Caller) (token : UInt32) : Act (Service τ) Unit := do
  requireInit
  match (← get).registry.resolve token with
  | none => throw .invalidInstanceId
  | some record =>
    if record.owner ≠ caller.process then throw .invalidProcess
    onExisting record.app .invalidInstanceId do
      if (← get).row.token ≠ some token then throw .invalidInstanceId
      unsubscribeQuietly
      closeQuietly
      modifyRow Row.retire

/-- Performs an operation. -/
def perform : (o : Operation) → Act (Service τ) o.Answer
  | .init => init
  | .deinit => deinit
  | .version => return version
  | .startProvisioning app => startProvisioning app
  | .endProvisioning app handle capacity => endProvisioning app handle capacity
  | .sendData app handle dataType data => sendData app handle dataType data
  | .receiveData app handle dataType capacity => receiveData app handle dataType capacity
  | .sendAndReceive app handle dataType data capacity =>
    sendAndReceive app handle dataType data capacity
  | .capabilities app capType capacity => capabilities app capType capacity
  | .install app source => install app source
  | .uninstall app => uninstall app
  | .getOtp app request => getOtp app request
  | .otpsStatus app handle statusType => otpsStatus app handle statusType
  | .appInstance app => appInstance app
  | .registerEvents app handler => registerEvents app handler
  | .unregisterEvents app => unregisterEvents app
  | .startInstance caller app handler => startInstance caller app handler
  | .stopInstance caller token => stopInstance caller token

instance : Operator (Service τ) where
  perform := perform

end Service

end AppletGateway
