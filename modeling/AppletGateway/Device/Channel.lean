import AppletGateway.Device.Basic
import AppletGateway.Frame
import AppletGateway.Transport

/-!
# The simulated co-processor: its message channel

The channel takes messages of at most 512 bytes, answers every complete request among them, and
sends its frames back in messages of at most 512 bytes. Events raised meanwhile precede the next
reply. Disconnecting closes every session.
-/

namespace AppletGateway

/-- A simulated co-processor behind a message channel (`SimulatedCoprocessor`). -/
structure Channel where
  device : Device
  /-- The requests that are not complete yet. -/
  inbox : Frame.Decoder := {}
  /-- The frames not received yet. -/
  outbox : Bytes := []
  connected : Bool := false
  deriving Inhabited

namespace Channel

/-- The length of the longest message (`SIM_MAX_MSG`). -/
def maxMessage : Nat := 512

/-- Why the channel does not take or give a message (`SimError`). -/
inductive Refusal
  /-- The device cannot be reached. -/
  | offline
  | notConnected
  /-- Nothing is there to be received. -/
  | idle
  deriving DecidableEq, Inhabited

/-- The frame around a message of the device; a message too long for a frame is not sent
(`push_inbound`). -/
def frameOf (inbound : Applet.Inbound) : Bytes :=
  (Frame.encode (Packed.pack inbound)).getD []

/-- A frame that no message has. -/
def junkFrame : Bytes := (Frame.encode [0x7f]).getD []

/-- Puts the raised events into the outbox (`flush_events`). -/
def flushEvents (c : Channel) : Channel :=
  { c with
    outbox := c.outbox ++ c.device.pending.flatMap fun e => frameOf (.event e)
    device := { c.device with pending := [] } }

/-- Connects, if the device can be reached (`connect`). Sessions are left as they are. -/
def connect (c : Channel) : Except Refusal Nat × Channel :=
  if c.device.offline then (.error .offline, c)
  else (.ok maxMessage, { c with connected := true, inbox := {}, outbox := [] })

/-- Sends a reply, behind the raised events and behind an unreadable frame if one is due. -/
def sendReply (reply : Applet.Reply) (c : Channel) : Channel :=
  let c := c.flushEvents
  let junk := if c.device.garbleNext then junkFrame else []
  { c with
    outbox := c.outbox ++ junk ++ frameOf (.reply reply)
    device := { c.device with garbleNext := false } }

/-- Answers the request in a frame. -/
def serve (payload : Bytes) (c : Channel) : Channel :=
  match Packed.read? payload with
  | some request =>
    let (reply, device) := c.device.handle request
    { c with device := device }.sendReply reply
  | none => c.sendReply (.ofStatus .protoError)

/-- Answers the complete requests in the inbox, at most `limit` of them. Behind a bad frame nothing
is read. -/
def serveInbox : (limit : Nat) → Channel → Channel
  | 0, c => c
  | limit + 1, c =>
    match c.inbox.next with
    | (.ok (some payload), inbox) => serveInbox limit ({ c with inbox := inbox }.serve payload)
    | (_, inbox) => { c with inbox := inbox }

/-- Takes a message, of which no more than the longest length, and gives the length taken
(`send`). -/
def send (message : Bytes) (c : Channel) : Except Refusal Nat × Channel :=
  if !c.connected then (.error .notConnected, c)
  else if c.device.offline then (.error .offline, c)
  else
    let taken := message.take maxMessage
    let c := { c with inbox := c.inbox.feed taken }
    (.ok taken.length, serveInbox (c.inbox.buffered + 1) c)

/-- Gives a message that fits into `room` (`receive`). -/
def receive (room : Nat) (c : Channel) : Except Refusal Bytes × Channel :=
  if !c.connected then (.error .notConnected, c)
  else
    let c := c.flushEvents
    if c.outbox = [] then (.error .idle, c)
    else
      let n := min room maxMessage
      (.ok (c.outbox.take n), { c with outbox := c.outbox.drop n })

/-- Whether a message is waiting (`available`). -/
def available (c : Channel) : Bool :=
  c.connected && (!c.outbox.isEmpty || !c.device.pending.isEmpty)

/-- Disconnects, which closes every session (`disconnect`). -/
def disconnect (c : Channel) : Channel :=
  if c.connected then
    { c with connected := false, inbox := {}, outbox := [], device := c.device.closeAll }
  else c

/-- The number of bytes on their way to the receiver. -/
def underway (c : Channel) : Nat :=
  c.outbox.length + (c.device.pending.flatMap fun e => frameOf (.event e)).length

instance : Transport Channel where
  connect _ c := (c.connect.1.toOption, c.connect.2)
  send message c :=
    let (taken, c) := c.send message
    (taken.toOption, c)
  receive room c :=
    let (data, c) := c.receive room
    (data.toOption.map Received.ofData, c)
  available := available
  disconnect := disconnect
  backlog := underway

end Channel

end AppletGateway
