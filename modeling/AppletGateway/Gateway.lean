import AppletGateway.Client.Call
import AppletGateway.Relay
import AppletGateway.Service
import AppletGateway.Socket.Client
import AppletGateway.Socket.Server

/-!
# The gateway

All parts together: the service behind the dispatcher and its workers, the relay, and the socket
connections with both their ends. A client reaches the dispatcher directly, through the workers, or
over a connection.

Events that the co-processor raised during a call are taken over by the relay when the call has
returned. Each is delivered before the next: the client of a stand-in reads it and hands it out as
soon as it is written. The events that handlers took are kept as a record.
-/

namespace AppletGateway

open Applet (Event)

/-- The gateway over a channel in a state of type `τ`. -/
structure Gateway (τ : Type) where
  pool : Pool (Service τ)
  relay : Relay := {}
  /-- The gateway's ends of the connections. -/
  serverEnds : Table Nat Socket.ServerEnd := Table.empty
  /-- The clients' ends of the connections. -/
  clientEnds : Table Nat Socket.ClientEnd := Table.empty
  /-- The number of connections made so far. -/
  connections : Nat := 0
  /-- Whether new connections are accepted. -/
  accepting : Bool := true
  /-- How the handlers take events. -/
  temper : String → Handled := fun _ => .done
  /-- The events that handlers took, oldest first. -/
  taken : List (String × Event) := []

/-- How a client reaches the dispatcher. -/
inductive Route
  | direct (caller : Caller)
  | pooled (caller : Caller)
  | socket (connection : Nat)
  deriving DecidableEq, Inhabited

/-- The gateway at the end of a route. -/
structure Line (τ : Type) where
  gateway : Gateway τ
  route : Route

namespace Gateway

variable {τ : Type} [Transport τ]

/-- The service inside. -/
def service (g : Gateway τ) : Service τ := g.pool.dispatcher.operator

/-- Runs a step of the service. -/
def viaService {α : Type} (step : StateM (Service τ) α) : StateM (Gateway τ) α := fun g =>
  let (a, s) := step.run g.service
  (a, { g with pool := { g.pool with dispatcher := { g.pool.dispatcher with operator := s } } })

/-- Runs a step of the dispatcher. -/
def viaDispatcher {α : Type} (step : StateM (Dispatcher (Service τ)) α) : StateM (Gateway τ) α :=
  fun g =>
    let (a, d) := step.run g.pool.dispatcher
    (a, { g with pool := { g.pool with dispatcher := d } })

/-- Whether the service holds a handler. -/
def held (s : Service τ) (h : Handler) : Bool := s.registry.holds h

/-! ## Connections -/

/-- Makes a connection with a client that keeps its end, if connections are accepted. -/
def connectAs (peer : Caller) : StateM (Gateway τ) (Option Nat) := fun g =>
  if g.accepting then
    let n := g.connections
    (some n,
      { g with
        connections := n + 1
        serverEnds := g.serverEnds.set n { connection := n, peer := peer }
        clientEnds := g.clientEnds.set n {} })
  else (none, g)

/-- Makes a connection with a client in the process of the gateway itself. -/
def connect : StateM (Gateway τ) (Option Nat) := connectAs { process := .self }

/-- Ends a connection on both sides. -/
def hangUp (n : Nat) (g : Gateway τ) : Gateway τ :=
  { g with serverEnds := g.serverEnds.erase n, clientEnds := g.clientEnds.erase n }

/-- Gives bytes to the gateway's end of a connection and collects what it writes
(`serve_connection`). -/
def write (n : Nat) (bytes : Bytes) : StateM (Gateway τ) (List Socket.Message) := fun g =>
  match g.serverEnds.get? n with
  | none => ([], g)
  | some s =>
    let ((written, s), pool) := (s.receive s.peer held bytes).run g.pool
    (written, { g with pool := pool, serverEnds := g.serverEnds.set n s })

/-- Makes a connection, gives it bytes as they come in several pieces, collects what the gateway
writes, and hangs up. -/
def exchangeRaw (pieces : List Bytes) : StateM (Gateway τ) (List Socket.Message) := do
  match ← connect with
  | none => return []
  | some n =>
    let written ← pieces.mapM (write n)
    modify (hangUp n)
    return written.flatten

/-- The data of the first reply among some messages. -/
def firstReply : List Socket.Message → Option Bytes
  | [] => none
  | .reply data :: _ => some data
  | _ :: rest => firstReply rest

/-- Makes a transaction over a connection: handlers go as their numbers, and an answer that is no
reply says that the other end is gone (`transact`). -/
def transactOver (n : Nat) (code : UInt32) (envelope : Envelope) :
    StateM (Gateway τ) (Except IpcError Envelope) := do
  match (← get).clientEnds.get? n with
  | none => return .error .disconnected
  | some c =>
    if c.closed then return .error .disconnected
    let (objects, c) := c.numbers envelope.objects
    modify fun g => { g with clientEnds := g.clientEnds.set n c }
    match (Socket.Message.call code envelope.data objects).frame with
    | none => return .error .disconnected
    | some bytes =>
      match firstReply (← write n bytes) with
      | some data =>
        modify fun g => { g with clientEnds := g.clientEnds.set n c.readEvents }
        return .ok { data := data, objects := [] }
      | none =>
        modify fun g =>
          { g with clientEnds := g.clientEnds.set n { c.readEvents with closed := true } }
        return .error .disconnected

/-- Makes a transaction by some route. -/
def transact (route : Route) (code : UInt32) (envelope : Envelope) :
    StateM (Gateway τ) (Except IpcError Envelope) :=
  match route with
  | .direct caller => do
    return .ok (← viaDispatcher (Dispatcher.transact caller code envelope))
  | .pooled caller => fun g =>
    let (answer, pool) := (Pool.submit caller code envelope).run g.pool
    (answer, { g with pool := pool })
  | .socket n => transactOver n code envelope

/-- Lets go of a handler that was sent by some route. -/
def release (route : Route) (h : Handler) (g : Gateway τ) : Gateway τ :=
  match route with
  | .socket n =>
    match g.clientEnds.get? n with
    | some c => { g with clientEnds := g.clientEnds.set n (c.release h) }
    | none => g
  | _ => g

instance : Remote (Line τ) where
  transact code envelope l :=
    let (answer, g) := (transact l.route code envelope).run l.gateway
    (answer, { l with gateway := g })
  release h l := { l with gateway := release l.route h l.gateway }

/-- Makes a call of a client and gives the result with the handlers that were released. -/
def call (client : Client Route) (c : Client.Call) :
    StateM (Gateway τ) (Except Status Client.Answer × List Handler × Client Route) := fun g =>
  let route := client.remote
  let line : Watched (Line τ) := { remote := { gateway := g, route := route } }
  let (result, after) := (Client.perform c).run (client.withRemote line)
  let watched := after.remote
  ((result, watched.released, after.withRemote route), watched.remote.gateway)

/-! ## Events -/

/-- A handler takes an event where it lives. -/
def takeEvent (name : String) (e : Event) : StateM (Gateway τ) Handled := fun g =>
  (g.temper name, { g with taken := g.taken ++ [(name, e)] })

/-- A handler gets an event (`on_event`). For a stand-in that means to write it to its
connection. -/
def handOver (h : Handler) (e : Event) : StateM (Gateway τ) Handled := do
  match h with
  | .own name => takeEvent name e
  | .proxy n _ object =>
    match (← get).clientEnds.get? n with
    | none => return .failed
    | some c =>
      if (Socket.Message.event object e).frame.isNone then return .failed
      modify fun g => { g with clientEnds := g.clientEnds.set n (c.post object e) }
      return .done

/-- The client of a connection reads the next event (`client_reader`). -/
def readEvent (n : Nat) (g : Gateway τ) : Gateway τ :=
  match g.clientEnds.get? n with
  | none => g
  | some c => { g with clientEnds := g.clientEnds.set n c.readEvent }

/-- The client of a connection gives the next event in its queue to the handler that it is for
(`client_delivery`). -/
def deliverEvent (n : Nat) : StateM (Gateway τ) Unit := do
  match (← get).clientEnds.get? n with
  | none => return
  | some c =>
    match c.nextEvent with
    | (none, _) => return
    | (some (object, e), c) => do
      modify fun g => { g with clientEnds := g.clientEnds.set n c }
      match c.handlerOf object with
      | some (.own name) => do
        if (← takeEvent name e) = .crashed then
          modify fun g => { g with clientEnds := g.clientEnds.set n { c with delivering := false } }
      | _ => return

/-- A handler gets an event, and the client of a stand-in's connection deals with it at once. -/
def invoke (h : Handler) (e : Event) : StateM (Gateway τ) Handled := do
  let handled ← handOver h e
  match h with
  | .own _ => return handled
  | .proxy n _ _ => do
    modify (readEvent n)
    deliverEvent n
    return handled

/-- Runs a step of the relay, which looks handlers up in the registry. -/
def viaRelay (step : (String → Option Handler) → (Handler → Event → StateM (Gateway τ) Handled) →
    Relay → StateM (Gateway τ) Relay) : StateM (Gateway τ) Unit := do
  let g ← get
  let relay ← step g.service.registry.callbackFor invoke g.relay
  modify fun g => { g with relay := relay }

/-- Hands the events raised by the co-processor to the relay, each delivered before the next, and
gives their number. -/
def relayEvents : StateM (Gateway τ) Nat := do
  let events ← viaService Service.takeEvents
  events.forM fun e => viaRelay fun callback invoke r =>
    Relay.deliverAll callback invoke (r.emit e)
  return events.length

/-- Stops the relay. -/
def stopRelay : StateM (Gateway τ) Unit := viaRelay Relay.shutdown

/-- Stops the workers. -/
def stopPool (g : Gateway τ) : Gateway τ := { g with pool := { g.pool with stopped := true } }

/-- Stops accepting connections; those that are open stay. -/
def stopAccepting (g : Gateway τ) : Gateway τ := { g with accepting := false }

end Gateway

end AppletGateway
