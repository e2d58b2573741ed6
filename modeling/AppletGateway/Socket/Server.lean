import AppletGateway.Frame
import AppletGateway.Remote
import AppletGateway.Socket.Message
import AppletGateway.Table

/-!
# The gateway's end of a socket connection

A connection turns the frames that arrive into transactions and writes the replies. For every
number that the client uses for a handler it makes one stand-in, which is the same as long as the
gateway holds it; once it is not held any more it is gone, and the number gets a new one. So a
handler that is registered again is recognised, and two handlers are never taken for one.

All frames that one read completes are looked at before the first is acted on. A bad frame, a
message that is not a call, or a reply that cannot be sent ends the connection.
-/

namespace AppletGateway

/-- The workers that take transactions until they are stopped, in front of a dispatcher
(`ServerPool`). -/
structure Pool (σ : Type) where
  dispatcher : Dispatcher σ
  stopped : Bool := false

/-- Hands a transaction to the workers and waits for its reply (`submit`). -/
def Pool.submit {σ : Type} [Operator σ] (caller : Caller) (code : UInt32) (envelope : Envelope) :
    StateM (Pool σ) (Except IpcError Envelope) := fun p =>
  if p.stopped then (.error .queueClosed, p)
  else
    let (reply, d) := (Dispatcher.transact caller code envelope).run p.dispatcher
    (.ok reply, { p with dispatcher := d })

namespace Socket

/-- The gateway's end of a connection (`serve_connection`). -/
structure ServerEnd where
  /-- Which connection this is. -/
  connection : Nat
  /-- The credentials of the client. -/
  peer : Caller
  decoder : Frame.Decoder := {}
  /-- The stand-ins that may still be held, by the client's number. -/
  proxies : Table UInt32 Handler := Table.empty
  /-- The number of stand-ins made so far. -/
  made : Nat := 0
  /-- Whether the connection is served. -/
  live : Bool := true

namespace ServerEnd

/-- The most that one read takes (`READ_CHUNK`). -/
def readLength : Nat := 4096

/-- Forgets the stand-ins that are not held any more. -/
def purge (held : Handler → Bool) (s : ServerEnd) : ServerEnd :=
  { s with proxies := s.proxies.filter fun _ h => held h }

/-- The stand-in for a number of the client. -/
def proxyFor (object : UInt32) (s : ServerEnd) : Handler × ServerEnd :=
  match s.proxies.get? object with
  | some h => (h, s)
  | none =>
    let h := .proxy s.connection s.made object
    (h, { s with proxies := s.proxies.set object h, made := s.made + 1 })

/-- The stand-ins for some numbers of the client, in order. -/
def proxiesFor : List UInt32 → ServerEnd → List Handler × ServerEnd
  | [], s => ([], s)
  | object :: objects, s =>
    let (h, s) := s.proxyFor object
    let (hs, s) := proxiesFor objects s
    (h :: hs, s)

/-- The connection after its end. -/
def stop (s : ServerEnd) : ServerEnd := { s with live := false }

/-- The messages that are complete; none if one of them, or its frame, cannot be read
(`read_frames`). -/
def complete (d : Frame.Decoder) : Option (List Message × Frame.Decoder) :=
  match d.drain with
  | (payloads, none, d) => (payloads.mapM Packed.read?).map fun messages => (messages, d)
  | (_, some _, _) => none

variable {σ : Type} [Operator σ]

/-- Acts on messages in order and gives what is written in answer (the body of the loop in
`serve_connection`). -/
def serve (caller : Caller) (held : σ → Handler → Bool) :
    List Message → ServerEnd → StateM (Pool σ) (List Message × ServerEnd)
  | [], s => return ([], s)
  | .call code data objects :: rest, s => do
    let s := s.purge (held (← get).dispatcher.operator)
    let (handlers, s) := s.proxiesFor objects
    match ← Pool.submit caller code { data := data, objects := handlers } with
    | .error _ => return ([], s.stop)
    | .ok envelope =>
      let reply := Message.reply envelope.data
      if reply.frame.isNone then return ([], s.stop)
      let (written, s) ← serve caller held rest s
      return (reply :: written, s)
  | _ :: _, s => return ([], s.stop)

/-- Takes the bytes of one read. -/
def read (caller : Caller) (held : σ → Handler → Bool) (received : Bytes) (s : ServerEnd) :
    StateM (Pool σ) (List Message × ServerEnd) := do
  if !s.live then return ([], s)
  match complete (s.decoder.feed received) with
  | none => return ([], s.stop)
  | some (messages, d) => serve caller held messages { s with decoder := d }

/-- Takes the bytes of several reads. -/
def readAll (caller : Caller) (held : σ → Handler → Bool) :
    List Bytes → ServerEnd → StateM (Pool σ) (List Message × ServerEnd)
  | [], s => return ([], s)
  | received :: rest, s => do
    let (written, s) ← read caller held received s
    let (more, s) ← readAll caller held rest s
    return (written ++ more, s)

/-- Takes bytes that were written at once: they are read in pieces. -/
def receive (caller : Caller) (held : σ → Handler → Bool) (bytes : Bytes) (s : ServerEnd) :
    StateM (Pool σ) (List Message × ServerEnd) :=
  readAll caller held (Bytes.chunks readLength bytes) s

end ServerEnd

end Socket

end AppletGateway
