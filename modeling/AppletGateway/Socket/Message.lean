import AppletGateway.Applet.Message
import AppletGateway.Frame

/-!
# Messages of the socket endpoint

Client and gateway exchange frames with packed messages. Handlers do not cross the socket: a client
sends a number for each of its handlers, and an event names the number it is for.
-/

namespace AppletGateway.Socket

/-- Whatever is exchanged on a socket (`SocketFrame`). -/
inductive Message
  /-- From the client: a transaction. The objects are the client's numbers for the handlers that
  the envelope refers to. -/
  | call (code : UInt32) (data : Bytes) (objects : List UInt32)
  /-- From the gateway: the reply to the call that is outstanding. -/
  | reply (data : Bytes)
  /-- From the gateway: an event for a handler of the client. -/
  | event (object : UInt32) (event : Applet.Event)
  deriving DecidableEq, Inhabited

open Packed (pack unpack packTag unpackTag packList unpackList)

instance : Packed Message where
  pack
    | .call code data objects => packTag 0 ++ pack code ++ pack data ++ packList objects
    | .reply data => packTag 1 ++ pack data
    | .event object event => packTag 2 ++ pack object ++ pack event
  unpack := do
    match ← unpackTag with
    | 0 => return .call (← unpack) (← unpack) (← unpackList)
    | 1 => return .reply (← unpack)
    | 2 => return .event (← unpack) (← unpack)
    | _ => failure

/-- The frame of a message, if the message is not too long for one. -/
def Message.frame (m : Message) : Option Bytes := Frame.encode (pack m)

end AppletGateway.Socket
