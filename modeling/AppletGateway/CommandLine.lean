import AppletGateway.Daemon

/-!
# The command line

The options of the program: `--config` names the file with the configuration, `--socket` the place
of the endpoint, and `--simulate` puts the simulated co-processor in place of a device. The value
of an option is the next argument or follows an equals sign.
-/

namespace AppletGateway

/-- What the arguments ask for (`Args`). -/
structure CommandLine where
  configPath : Option String := none
  simulate : Bool := false
  socketPath : Option String := none
  help : Bool := false
  deriving DecidableEq, Inhabited

namespace CommandLine

/-- Why the arguments are not understood. -/
inductive Error
  | unexpected (argument : String)
  | missingValue (option : String)
  deriving DecidableEq

/-- The wording of an error. -/
def Error.message : Error → String
  | unexpected argument => "unexpected argument '" ++ argument ++ "' found"
  | missingValue option => "a value is required for '" ++ option ++ "' but none was supplied"

/-- The summary of the options. -/
def usage : String :=
  "Usage: ihaproxyd [OPTIONS]\n\n" ++
  "Options:\n" ++
  "  -c, --config <CONFIG>  JSON configuration file\n" ++
  "      --simulate         Use the simulated co-processor regardless of the configured transport\n" ++
  "      --socket <SOCKET>  Override the listening socket path\n" ++
  "  -h, --help             Print help"

/-- Takes the value of an option. -/
def takeValue (option value : String) (l : CommandLine) : Option CommandLine :=
  match option with
  | "-c" | "--config" => some { l with configPath := some value }
  | "--socket" => some { l with socketPath := some value }
  | _ => none

/-- Reads the arguments behind those read already. -/
def parseFrom (l : CommandLine) : List String → Except Error CommandLine
  | [] => .ok l
  | "--simulate" :: rest => parseFrom { l with simulate := true } rest
  | "-h" :: rest | "--help" :: rest => parseFrom { l with help := true } rest
  | [argument] =>
    match argument.splitOn "=" with
    | option :: value :: values =>
      match takeValue option (String.intercalate "=" (value :: values)) l with
      | some l => .ok l
      | none => .error (.unexpected argument)
    | _ =>
      if (takeValue argument "" l).isSome then .error (.missingValue argument)
      else .error (.unexpected argument)
  | argument :: value :: rest =>
    match argument.splitOn "=" with
    | option :: first :: values =>
      match takeValue option (String.intercalate "=" (first :: values)) l with
      | some l => parseFrom l (value :: rest)
      | none => .error (.unexpected argument)
    | _ =>
      match takeValue argument value l with
      | some l => parseFrom l rest
      | none => .error (.unexpected argument)

/-- Reads the arguments. -/
def parse (arguments : List String) : Except Error CommandLine := parseFrom {} arguments

/-- The configuration with what the command line overrides. -/
def override (l : CommandLine) (c : Config) : Config :=
  let c := if l.simulate then c.simulating else c
  { c with socketPath := l.socketPath.getD c.socketPath }

end CommandLine

end AppletGateway
