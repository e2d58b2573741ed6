/-!
# Event handlers and callers

Who takes part in a call. A handler is an object that takes events; all that the gateway knows of
it is which object it is, so two handlers are equal exactly if they are the same object. A caller is
known by its process and user.
-/

namespace AppletGateway

/-- The identity of an event handler (`HandlerRef`). -/
inductive Handler
  /-- An object that lives where it was made. -/
  | own (name : String)
  /-- The stand-in, on a socket connection, for an object of the client at its other end: the
  `serial`-th stand-in made on that connection, for the object that the client calls `object`. -/
  | proxy (connection serial : Nat) (object : UInt32)
  deriving DecidableEq, Inhabited

/-- A process on the machine. -/
inductive ProcessId
  /-- The process of the gateway itself. -/
  | self
  /-- Another process. -/
  | peer (pid : UInt32)
  deriving DecidableEq, Inhabited

/-- The credentials of a caller (`Caller`). -/
structure Caller where
  process : ProcessId
  uid : UInt32 := 0
  deriving DecidableEq, Inhabited

/-- How a handler took an event. -/
inductive Handled
  | done
  /-- The handler reported an error. -/
  | failed
  /-- The handler broke down. -/
  | crashed
  deriving DecidableEq, Inhabited

end AppletGateway
