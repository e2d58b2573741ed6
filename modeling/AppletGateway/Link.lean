import AppletGateway.Applet.Message
import AppletGateway.Frame
import AppletGateway.Transport

/-!
# The link to the co-processor

One request and its reply at a time over a message channel. Requests go out as frames cut into
messages; what comes in is put together again, and events that arrive while a reply is awaited are
handed on before the wait continues.

Once a request is on the wire, its reply is read or the link starts over: any failure disconnects,
drops what is buffered and connects again, so that a late reply never answers the next request. The
sessions of a connection end with it; `Link.epoch` counts the connections.
-/

namespace AppletGateway

/-- Why the link could not do what it was asked to (`LinkError`). -/
inductive LinkError
  /-- The link is not connected. -/
  | notConnected
  /-- The channel failed, or its other side is gone. -/
  | transport
  /-- A frame or a message could not be read. -/
  | malformed
  /-- A request is too long for a frame. -/
  | encode
  deriving DecidableEq, Inhabited

/-- The wording of a link error. -/
def LinkError.message : LinkError → String
  | notConnected => "link not connected"
  | transport => "transport failure"
  | malformed => "malformed frame from co-processor"
  | encode => "request encoding failed"

/-- The status that a link error ends a call with. -/
def LinkError.status : LinkError → Status
  | notConnected => .libraryNotInitialized
  | transport => .commsError
  | malformed | encode => .internalError

/-- The length of a message if the channel does not limit it (`DEFAULT_MSG_LEN`). -/
def Link.defaultMessage : Nat := 4096

/-- The link over a channel in a state of type `τ` (`AppletLink`). -/
structure Link (τ : Type) where
  transport : τ
  /-- The logical client that it connects to. -/
  client : Guid := Guid.nil
  connected : Bool := false
  /-- The length of the longest message. -/
  maxMessage : Nat := Link.defaultMessage
  decoder : Frame.Decoder := {}
  /-- The number of connections so far. A session of an earlier one no longer exists. -/
  epoch : Nat := 0
  /-- The events handed on and not collected yet, oldest first. -/
  emitted : List Applet.Event := []

namespace Link

variable {τ : Type} [Transport τ]

/-- A step of the link; its state changes even if the step fails. -/
abbrev Run (τ : Type) := ExceptT LinkError (StateM (Link τ))

/-! ## Connecting -/

/-- Connects the channel and says whether that succeeded (`open`). -/
def openChannel : StateM (Link τ) Bool := fun l =>
  match Transport.connect l.client l.transport with
  | (some n, t) =>
    (true, { l with
      transport := t, connected := true, maxMessage := if n = 0 then defaultMessage else n,
      decoder := {}, epoch := l.epoch + 1 })
  | (none, t) => (false, { l with transport := t })

/-- Disconnects the channel and drops what is buffered. -/
def closeChannel : StateM (Link τ) Unit :=
  modify fun l => { l with
    transport := Transport.disconnect l.transport, connected := false, decoder := {} }

/-- Connects the link unless it is connected (`connect`). -/
def connect : Run τ Unit := do
  if (← get).connected then return
  let opened ← (openChannel : StateM (Link τ) Bool)
  if !opened then throw .transport

/-- Disconnects the link if it is connected (`disconnect`). -/
def disconnect : StateM (Link τ) Unit := do
  if (← get).connected then closeChannel

/-- Starts over on a new connection (`reset`). The link stays down if that cannot be made. -/
def reset : StateM (Link τ) Unit := do
  closeChannel
  let _ ← openChannel

/-- Runs a step and starts over if it fails. -/
def orReset {α : Type} (step : Run τ α) : Run τ α :=
  tryCatch step fun e => do
    (reset : StateM (Link τ) Unit)
    throw e

/-! ## Sending -/

/-- Sends the rest of a message, at least one byte at each of at most `limit` calls (`send_all`). -/
def sendMessage : (limit : Nat) → Bytes → Run τ Unit
  | _, [] => return ()
  | 0, _ => throw .transport
  | limit + 1, message => do
    let l ← get
    let (taken, t) := Transport.send message l.transport
    set { l with transport := t }
    match taken with
    | none | some 0 => throw .transport
    | some n => sendMessage limit (message.drop n)

/-- Sends a frame as messages of at most the longest length. -/
def sendFrame (frame : Bytes) : Run τ Unit := do
  (Bytes.chunks (← get).maxMessage frame).forM fun message => sendMessage message.length message

/-! ## Receiving -/

/-- Receives one message (`receive_into_decoder`). Of a count beyond the buffer only the buffer is
taken. -/
def receiveMessage : Run τ Unit := do
  let l ← get
  let (received, t) := Transport.receive l.maxMessage l.transport
  set { l with transport := t }
  match received with
  | none => throw .transport
  | some r =>
    if r.count = 0 then throw .transport
    modify fun l => { l with
      decoder := l.decoder.feed (Bytes.resize (min r.count l.maxMessage) r.data) }

/-- The next complete message of the co-processor among the bytes received (in `next_inbound`). -/
def nextInbound : Run τ (Option Applet.Inbound) := do
  let l ← get
  let (frame, decoder) := l.decoder.next
  set { l with decoder := decoder }
  match frame with
  | .error _ => throw .malformed
  | .ok none => return none
  | .ok (some payload) =>
    match Packed.read? payload with
    | some inbound => return some inbound
    | none => throw .malformed

/-- Hands an event on. -/
def emit (e : Applet.Event) : Run τ Unit :=
  modify fun l => { l with emitted := l.emitted ++ [e] }

/-- The next reply among the bytes received. At most `limit` events in front of it are handed on;
no more than there are bytes can be there. -/
def bufferedReply : (limit : Nat) → Run τ (Option Applet.Reply)
  | 0 => return none
  | limit + 1 => do
    match ← nextInbound with
    | none => return none
    | some (.reply r) => return some r
    | some (.event e) => do
      emit e
      bufferedReply limit

/-- Waits for the next reply through at most `limit` messages (the loop of `round_trip`). That none
of them has brought it counts as a failure of the channel. -/
def awaitReply : (limit : Nat) → Run τ Applet.Reply
  | 0 => throw .transport
  | limit + 1 => do
    match ← bufferedReply ((← get).decoder.buffered + 1) with
    | some r => return r
    | none => do
      receiveMessage
      awaitReply limit

/-- Sends a frame and waits for the reply (`round_trip`). -/
def roundTrip (frame : Bytes) : Run τ Applet.Reply := do
  sendFrame frame
  awaitReply (Transport.backlog (← get).transport + 1)

/-- Exchanges a request for its reply (`exchange`). A request that is refused before anything is
sent changes nothing; a failure after that starts the link over. -/
def exchange (request : Applet.Request) : Run τ Applet.Reply := do
  if !(← get).connected then throw .notConnected
  match Frame.encode (Packed.pack request) with
  | none => throw .encode
  | some frame => orReset (roundTrip frame)

/-! ## Polling -/

/-- Hands on the events among the bytes received and counts them (`route_unsolicited`). A reply that
nobody waits for is dropped. -/
def routeBuffered : (limit : Nat) → (count : Nat) → Run τ Nat
  | 0, count => return count
  | limit + 1, count => do
    match ← nextInbound with
    | none => return count
    | some (.reply _) => routeBuffered limit count
    | some (.event e) => do
      emit e
      routeBuffered limit (count + 1)

/-- Hands on all events that are there, through at most `limit` messages, and counts them. -/
def drainEvents : (limit : Nat) → (count : Nat) → Run τ Nat
  | 0, _ => throw .transport
  | limit + 1, count => do
    let count ← routeBuffered ((← get).decoder.buffered + 1) count
    if Transport.available (← get).transport then
      receiveMessage
      drainEvents limit count
    else return count

/-- Hands on all events that are there without sending anything, and counts them (`poll_events`). -/
def pollEvents : Run τ Nat := do
  if !(← get).connected then return 0
  orReset (drainEvents (Transport.backlog (← get).transport + 1) 0)

end Link

end AppletGateway
