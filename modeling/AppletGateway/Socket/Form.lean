import AppletGateway.Applet.Form
import AppletGateway.Socket.Message

/-!
# The JSON form of socket messages

The messages of the socket endpoint as tools and logs show them.
-/

namespace AppletGateway.Socket

open Json (Form variant record field?)

instance : Form Message where
  write
    | .call code data objects =>
      variant "Call" (record [("code", Form.write code), ("data", Form.write data),
        ("objects", Form.write objects)])
    | .reply data => variant "Reply" (record [("data", Form.write data)])
    | .event object event =>
      variant "Event" (record [("object", Form.write object), ("event", Form.write event)])
  read? v := do
    match ← v.asVariant? with
    | ("Call", content) => do
      let f ← content.asFields? ["code", "data", "objects"]
      return .call (← field? f "code") (← field? f "data") (← field? f "objects")
    | ("Reply", content) => return .reply (← field? (← content.asFields? ["data"]) "data")
    | ("Event", content) => do
      let f ← content.asFields? ["object", "event"]
      return .event (← field? f "object") (← field? f "event")
    | _ => failure

end AppletGateway.Socket
