import AppletGateway.Dispatcher

/-!
# Remotes

How a client reaches the dispatcher: something that takes a request envelope and gives the reply
envelope, or fails on the way. A remote that keeps a reference of its own to the handlers sent
through it is told when the gateway no longer holds one.
-/

namespace AppletGateway

/-- Why a transaction failed on the way (`IpcError`). -/
inductive IpcError
  /-- The other end went away. -/
  | disconnected
  /-- The gateway is shutting down and takes no more calls. -/
  | queueClosed
  /-- What came back is not a reply. -/
  | malformed
  deriving DecidableEq, Inhabited

/-- The wording of an error on the way. -/
def IpcError.message : IpcError → String
  | disconnected => "remote disconnected"
  | queueClosed => "server queue closed"
  | malformed => "malformed IPC frame"

/-- The status that a transaction failed on the way ends with. -/
def IpcError.status (_ : IpcError) : Status := .commsError

/-- A way to the dispatcher in a state of type `ρ` (`Remote`). -/
class Remote (ρ : Type) where
  /-- Sends a request envelope and gives the reply envelope. -/
  transact : UInt32 → Envelope → ρ → Except IpcError Envelope × ρ
  /-- Takes note that the gateway no longer holds a handler. -/
  release : Handler → ρ → ρ

/-- The dispatcher called directly on behalf of a caller (`DirectRemote`). -/
structure Direct (σ : Type) where
  dispatcher : Dispatcher σ
  caller : Caller

instance {σ : Type} [Operator σ] : Remote (Direct σ) where
  transact code envelope r :=
    let (reply, d) := (Dispatcher.transact r.caller code envelope).run r.dispatcher
    (.ok reply, { r with dispatcher := d })
  release _ r := r

/-- Replies laid down beforehand, in the order in which they are given; after the last the other
end is gone. -/
structure Canned where
  replies : List (Except IpcError Bytes)

instance : Remote Canned where
  transact _ _ r :=
    match r.replies with
    | [] => (.error .disconnected, r)
    | reply :: rest => (reply.map fun data => { data := data, objects := [] }, ⟨rest⟩)
  release _ r := r

/-- A remote with a record of what went through it: the transactions sent and the handlers
released, oldest first. -/
structure Watched (ρ : Type) where
  remote : ρ
  sent : List (UInt32 × Envelope) := []
  released : List Handler := []

instance {ρ : Type} [Remote ρ] : Remote (Watched ρ) where
  transact code envelope r :=
    let (reply, remote) := Remote.transact code envelope r.remote
    (reply, { r with remote := remote, sent := r.sent ++ [(code, envelope)] })
  release h r := { r with remote := Remote.release h r.remote, released := r.released ++ [h] }

end AppletGateway
