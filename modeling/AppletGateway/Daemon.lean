import AppletGateway.Config
import AppletGateway.Device.Channel
import AppletGateway.Gateway

/-!
# The gateway as a program

A gateway that is set up from its configuration and serves one connection whose client is another
program. What the gateway writes is the replies to what one read brought, and then the events that
were raised meanwhile for handlers of that client.
-/

namespace AppletGateway

open Applet (Event)

namespace Config

/-- The configuration with the simulated co-processor in place of a device. -/
def simulating (c : Config) : Config :=
  match c.channel with
  | .device _ => { c with channel := .simulated [] }
  | .simulated _ => c

end Config

namespace Gateway

variable {τ : Type} [Transport τ]

/-- The gateway that a configuration describes, over a channel. -/
def ofConfig (c : Config) (channel : τ) : Gateway τ :=
  { pool :=
      { dispatcher :=
          { operator := { link := { transport := channel, client := c.clientGuid }
                          options := c.options }
            descriptor := c.interfaceDescriptor } } }

/-- Writes an event for a handler of the client. Only such handlers can be reached. -/
def writeEvent (h : Handler) (e : Event) : StateM (List Socket.Message) Handled := do
  match h with
  | .own _ => return .failed
  | .proxy _ _ object =>
    modify fun written => written ++ [.event object e]
    return .done

/-- Hands the events raised by the co-processor to the relay and gives what is written for them. -/
def writeEvents : StateM (Gateway τ) (List Socket.Message) := do
  let events ← viaService Service.takeEvents
  let g ← get
  let deliver (r : Relay) (e : Event) : StateM (List Socket.Message) Relay :=
    Relay.deliverAll g.service.registry.callbackFor writeEvent (r.emit e)
  let (relay, written) := (events.foldlM deliver g.relay).run []
  set { g with relay := relay }
  return written

/-- Takes the bytes of one read from connection `n`, looks for events, and gives what is written
(`serve`). A failure to look for events is of no consequence. -/
def serve (n : Nat) (bytes : Bytes) : StateM (Gateway τ) (List Socket.Message) := do
  let replies ← write n bytes
  let _ ← viaService Service.pollEvents.run
  return replies ++ (← writeEvents)

/-- Whether connection `n` is served. -/
def isServing (g : Gateway τ) (n : Nat) : Bool :=
  (g.serverEnds.get? n).elim false fun s => s.live

/-- Ends all sessions, drops the rows and stops the relay. -/
def finish : StateM (Gateway τ) Unit := do
  modify stopAccepting
  modify stopPool
  let _ ← viaService Service.deinit.run
  stopRelay

end Gateway

end AppletGateway
