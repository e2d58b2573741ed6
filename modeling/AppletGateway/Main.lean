import AppletGateway.CommandLine
import AppletGateway.Config.Text

/-!
# The program

Serves one connection: frames come in on standard input and go out on standard output, and what the
program has to say goes to standard error. A device cannot be reached from here, so a gateway that
is configured for one answers every call that needs it with a communication error.
-/

open AppletGateway

/-- Writes the frames of some messages. -/
def writeMessages (output : IO.FS.Stream) (messages : List Socket.Message) : IO Unit := do
  messages.forM fun m => output.write ⟨(m.frame.getD []).toArray⟩
  output.flush

/-- Serves connection `n` until its client hangs up or it ends. -/
partial def serveConnection {τ : Type} [Transport τ] (n : Nat) (input output : IO.FS.Stream)
    (g : Gateway τ) : IO (Gateway τ) := do
  let received ← input.read (USize.ofNat Socket.ServerEnd.readLength)
  if received.isEmpty then return g
  let (messages, g) := (Gateway.serve n received.data.toList).run g
  writeMessages output messages
  if g.isServing n then serveConnection n input output g else return g

/-- Runs the gateway over a channel. -/
def runGateway {τ : Type} [Transport τ] (c : Config) (channel : τ) : IO Unit := do
  let (connection, g) := Gateway.connect.run (Gateway.ofConfig c channel)
  let g ← serveConnection (connection.getD 0) (← IO.getStdin) (← IO.getStdout) g
  let ((), g) := Gateway.finish.run g
  IO.eprintln ("shutting down (" ++ toString g.pool.dispatcher.served ++ " request(s) served)")

/-- The contents of a file, if it can be read. -/
def readContents (path : String) : IO (Option Bytes) := do
  try
    return some (← IO.FS.readBinFile path).data.toList
  catch _ => return none

/-- The configuration that the command line asks for. -/
def configure (l : CommandLine) : IO (Except String Config) := do
  match l.configPath with
  | none => return .ok (l.override {})
  | some path =>
    match Config.load (← readContents path) with
    | .ok c => return .ok (l.override c)
    | .error e => return .error ("loading " ++ path ++ ": " ++ e.fault.message)

/-- Runs the program. -/
def main (arguments : List String) : IO UInt32 := do
  match CommandLine.parse arguments with
  | .error e =>
    IO.eprintln ("error: " ++ e.message ++ "\n\n" ++ CommandLine.usage)
    return 2
  | .ok l =>
    if l.help then
      IO.println CommandLine.usage
      return 0
    match ← configure l with
    | .error e =>
      IO.eprintln ("ihaproxyd: " ++ e)
      return 1
    | .ok c =>
      match c.channel with
      | .simulated apps => runGateway c ({ device := .ofApps apps } : Channel)
      | .device _ => runGateway c Unreachable.mk
      return 0
