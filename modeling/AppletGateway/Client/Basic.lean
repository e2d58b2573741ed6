import AppletGateway.Remote
import AppletGateway.Table

/-!
# Clients

The calling side: a client writes the envelope of a call, sends it through a remote and reads the
reply. A failure on the way is a communication error, and a reply that cannot be read is an
internal error.

A call with an output of variable length either gives the negotiated answer as it is, or makes the
one retry with the corrected length by itself and fails only if that is too short as well.

A client remembers which handler the gateway holds for each app, so that the remote can let go of a
handler once the gateway has: after it was unbound, or when it was not bound at all.
-/

namespace AppletGateway

/-- A client in front of a remote in a state of type `ρ` (`IhaClient`). -/
structure Client (ρ : Type) where
  remote : ρ
  /-- What every request starts with. -/
  descriptor : String
  /-- The capacity of the first attempt of a call that retries by itself. -/
  initialLength : UInt32
  /-- The handlers that the gateway holds, by app. -/
  bindings : Table String Handler := Table.empty
  /-- The apps for which instances were started, by token. -/
  instances : Table UInt32 String := Table.empty

namespace Client

variable {ρ : Type} [Remote ρ] {α : Type}

/-- A client whose first capacity is at least one and at most the largest. -/
def new {ρ : Type} (remote : ρ) (descriptor : String) (initialLength : UInt32) : Client ρ :=
  { remote := remote
    descriptor := descriptor
    initialLength := min (max initialLength 1) maxCapacity }

/-- The client in front of another remote. -/
def withRemote {ρ ρ' : Type} (c : Client ρ) (remote : ρ') : Client ρ' :=
  { remote := remote
    descriptor := c.descriptor
    initialLength := c.initialLength
    bindings := c.bindings
    instances := c.instances }

/-- A call of a client; its state changes even if the call fails. -/
abbrev Run (ρ : Type) := Act (Client ρ)

/-! ## Handlers held by the gateway -/

/-- Whether any app has a handler bound (`holds`). -/
def holds (c : Client ρ) (h : Handler) : Bool := c.bindings.values.contains h

/-- Tells the remote that a handler is no longer held. -/
def release (h : Handler) (c : Client ρ) : Client ρ :=
  { c with remote := Remote.release h c.remote }

/-- Tells the remote so unless an app still has the handler bound (`release_unless_bound`). -/
def releaseUnlessBound (h : Handler) (c : Client ρ) : Client ρ :=
  if c.holds h then c else c.release h

/-- Notes that the gateway holds a handler for an app (`bind`). -/
def bind (app : String) (h : Handler) (c : Client ρ) : Client ρ :=
  { c with bindings := c.bindings.set app h }

/-- Notes that the gateway holds nothing for an app (`unbind`). -/
def unbind (app : String) (c : Client ρ) : Client ρ :=
  let held := c.bindings.get? app
  let c := { c with
    bindings := c.bindings.erase app
    instances := c.instances.filter fun _ owner => owner ≠ app }
  match held with
  | some h => c.releaseUnlessBound h
  | none => c

/-- Notes that the gateway holds nothing at all (`unbind_all`). -/
def unbindAll (c : Client ρ) : Client ρ :=
  c.bindings.values.foldl (fun c h => c.release h)
    { c with bindings := Table.empty, instances := Table.empty }

/-! ## Calls -/

/-- Sends a request and gives the reply (`call`). -/
def call (request : Request) : Run ρ Reply := fun c =>
  let (answer, remote) :=
    Remote.transact request.opcode.code (request.encode c.descriptor) c.remote
  let result : Except Status Reply :=
    match answer with
    | .error e => .error e.status
    | .ok envelope =>
      match Reply.decode request.opcode envelope with
      | .ok reply => .ok reply
      | .error _ => .error .internalError
  (result, { c with remote := remote })

/-- Makes a call without negotiated outputs (`call_body`). -/
def callBody (request : Request) : Run ρ Reply.Body := do
  match ← call request with
  | .ok body => return body
  | .tooSmall _ => throw .insufficientBuffer
  | .failed s => throw s

/-- Makes a call that only gets done (`call_unit`). -/
def callUnit (request : Request) : Run ρ Unit := do
  let _ ← callBody request

/-- Makes a call that gives one word (`call_value`). -/
def callValue (request : Request) : Run ρ UInt32 := do
  match ← callBody request with
  | .value v | .handle v => return v
  | _ => throw .internalError

/-- Makes a call with one negotiated output (`call_data`). -/
def callData (request : Request) : Run ρ (Negotiated Bytes) := do
  match ← call request with
  | .ok (.data d) => return .complete d
  | .ok _ => throw .internalError
  | .tooSmall required => return .tooSmall required
  | .failed s => throw s

/-- The value of a negotiated answer. -/
def complete : Negotiated α → Run ρ α
  | .complete v => return v
  | .tooSmall _ => throw .insufficientBuffer

/-- Makes a call with one output, with one retry if its capacity is too small (`negotiate_data`). -/
def negotiateData (request : UInt32 → Request) : Run ρ Bytes := do
  let first := (← get).initialLength
  let out ← Negotiation.retryOnce (.ofList [first]) fun capacities =>
    callData (request (capacities.toList.head?.getD first))
  complete out

/-- Does `after` once a call that only gets done has succeeded. -/
def callThen (request : Request) (after : Client ρ → Client ρ) : Run ρ Unit := do
  callUnit request
  modify after

/-! ## One-time passwords -/

/-- Asks for a one-time password (`get_otp`). -/
def getOtp (app : String) (request : OtpRequest) : Run ρ (Negotiated Otp) := do
  match ← call (.getOtp app (request.handle.getD 0) request.token request.vendorData
      request.otpCapacity request.tokenCapacity) with
  | .ok (.otp password token) => return .complete ⟨password, token⟩
  | .ok _ => throw .internalError
  | .tooSmall required => return .tooSmall required
  | .failed s => throw s

/-- Asks for a one-time password, with one retry (`get_otp_negotiated`). A password capacity of zero
starts from the client's first capacity; a token capacity of zero leaves the token out. -/
def getOtpNegotiated (app : String) (request : OtpRequest) : Run ρ Otp := do
  let first := (← get).initialLength
  let otpCapacity := if request.otpCapacity = 0 then first else request.otpCapacity
  let out ← Negotiation.retryOnce (.ofList [otpCapacity, request.tokenCapacity]) fun capacities =>
    getOtp app { request with
      otpCapacity := capacities.toList.head?.getD otpCapacity
      tokenCapacity := capacities.toList[1]?.getD 0 }
  complete out

/-! ## Sessions, events and instances -/

/-- Asks for the instance token and the sharing flag of an app's session (`app_instance`). -/
def appInstance (app : String) : Run ρ (UInt32 × UInt32) := do
  match ← callBody (.getAppInstance app) with
  | .instanceToken token flags => return (token, flags)
  | _ => throw .internalError

/-- Binds a handler to the events of an app (`register_events`). -/
def registerEvents (app : String) (h : Handler) : Run ρ Unit := do
  try
    callThen (.registerEvents app h) (bind app h)
  catch s =>
    modify (releaseUnlessBound h)
    throw s

/-- Unbinds the handler of an app's events (`unregister_events`). If nothing was bound, that is
known now as well. -/
def unregisterEvents (app : String) : Run ρ Unit := do
  try
    callThen (.unregisterEvents app) (unbind app)
  catch s =>
    if s = .notRegisteredForEvents then modify (unbind app)
    throw s

/-- Starts an instance of an app, with a handler of its events if one is given
(`start_instance`). -/
def startInstance (app : String) (handler : Option Handler) : Run ρ UInt32 := do
  try
    let token ← callValue (.startInstance app handler)
    if let some h := handler then modify (bind app h)
    modify fun c => { c with instances := c.instances.set token app }
    return token
  catch s =>
    if let some h := handler then modify (releaseUnlessBound h)
    throw s

/-- Stops an instance (`stop_instance`). -/
def stopInstance (token : UInt32) : Run ρ Unit := do
  callUnit (.stopInstance token)
  if let some app := (← get).instances.get? token then
    modify fun c => { c with instances := c.instances.erase token }.unbind app

end Client

end AppletGateway
