import AppletGateway.Guid
import AppletGateway.Negotiation
import AppletGateway.Packed
import AppletGateway.Service

/-!
# Configuration

All that can be set about the gateway. Every setting has a default, and the defaults make a usable
gateway in front of the simulated co-processor.

Main statements:

* `Config.validate_default`: the defaults are valid.
* `Config.validate_eq_ok_iff`: a configuration is valid exactly if it has no defect.
-/

namespace AppletGateway

/-- How much is logged. -/
inductive LogLevel
  | off
  | error
  | warn
  | info
  | debug
  | trace
  deriving DecidableEq, Inhabited

namespace LogLevel

/-- All levels, least first. -/
def all : List LogLevel := [off, error, warn, info, debug, trace]

/-- The name of a level. -/
def name : LogLevel → String
  | off => "OFF"
  | error => "ERROR"
  | warn => "WARN"
  | info => "INFO"
  | debug => "DEBUG"
  | trace => "TRACE"

/-- The level with a name, in either case. -/
def ofName? (s : String) : Option LogLevel := all.find? fun l => l.name = s.toUpper

end LogLevel

/-- How the co-processor is reached (`TransportConfig`). -/
inductive Config.Channel
  /-- Through the character device at a path. -/
  | device (path : String)
  /-- By simulation, with some apps installed. -/
  | simulated (apps : List String)
  deriving DecidableEq, Inhabited

/-- The settings of the gateway (`ServiceConfig`). -/
structure Config where
  /-- The name under which the endpoint is known. -/
  serviceName : String := "com.intel.security.service.ISEPService"
  /-- What every request has to start with. -/
  interfaceDescriptor : String := "com.intel.security.service.ISEPService"
  /-- Where the endpoint listens. -/
  socketPath : String := "/dev/socket/ihaproxy"
  /-- The number of workers that take transactions. -/
  workerThreads : UInt64 := 4
  channel : Config.Channel := .simulated []
  /-- The logical client of the co-processor. -/
  clientGuid : Guid := Guid.nil
  /-- The time between two looks for events, in milliseconds. -/
  eventPollInterval : UInt64 := 50
  eventsEnabled : Bool := true
  installEnabled : Bool := true
  /-- The capacity of the first attempt of a client that retries by itself. -/
  defaultBufferLength : UInt32 := 256
  /-- The name of the log level. -/
  logLevel : String := "info"
  deriving DecidableEq, Inhabited

/-- Why there is no valid configuration. -/
inductive ConfigError
  | unreadable
  | malformed
  | emptyServiceName
  | emptyInterfaceDescriptor
  | workerThreads
  | defaultBufferLength
  | eventPollInterval
  | emptyDevicePath
  | missingClientGuid
  | logLevel
  deriving DecidableEq, Inhabited

/-- The wording of an error. -/
def ConfigError.message : ConfigError → String
  | unreadable => "cannot read config file"
  | malformed => "malformed config JSON"
  | emptyServiceName => "service_name must not be empty"
  | emptyInterfaceDescriptor => "interface_descriptor must not be empty"
  | workerThreads => "worker_threads must be 1–64"
  | defaultBufferLength => "default_buffer_len must be 1–65535"
  | eventPollInterval => "event_poll_interval_ms must be 1–10000"
  | emptyDevicePath => "transport device path must not be empty"
  | missingClientGuid => "client_guid is required for the device transport"
  | logLevel => "log_level is not a valid level"

/-- The failure that an error amounts to. -/
def ConfigError.fault (e : ConfigError) : Fault := .config e.message

namespace Config

/-- The log level; `info` if its name is none (`level_filter`). -/
def level (c : Config) : LogLevel := (LogLevel.ofName? c.logLevel).getD .info

/-- Which operations the service offers. -/
def options (c : Config) : ServiceOptions :=
  { installEnabled := c.installEnabled, eventsEnabled := c.eventsEnabled }

/-! ## Validity -/

/-- The rules of a valid configuration, in the order in which they are checked: what is wrong if a
rule is broken, and whether it is. -/
def checks (c : Config) : List (ConfigError × Bool) :=
  [(.emptyServiceName, c.serviceName = ""),
    (.emptyInterfaceDescriptor, c.interfaceDescriptor = ""),
    (.workerThreads, !(1 ≤ c.workerThreads && c.workerThreads ≤ 64)),
    (.defaultBufferLength, !(1 ≤ c.defaultBufferLength && c.defaultBufferLength ≤ maxCapacity)),
    (.eventPollInterval, !(1 ≤ c.eventPollInterval && c.eventPollInterval ≤ 10000)),
    (.emptyDevicePath, c.channel = .device ""),
    (.missingClientGuid, (c.channel matches .device _) && c.clientGuid = Guid.nil),
    (.logLevel, (LogLevel.ofName? c.logLevel).isNone)]

/-- What is wrong with a configuration. -/
def defects (c : Config) : List ConfigError :=
  (c.checks.filter Prod.snd).map Prod.fst

/-- The check of a configuration, which reports the first of its defects (`validate`). -/
def validate (c : Config) : Except ConfigError Unit :=
  match c.defects with
  | [] => .ok ()
  | e :: _ => .error e

/-- A configuration is valid exactly if it has no defect. -/
theorem validate_eq_ok_iff {c : Config} : c.validate = .ok () ↔ c.defects = [] := by
  unfold validate
  split <;> simp_all

theorem defects_default : defects {} = [] := by decide +kernel

/-- The defaults are valid. -/
theorem validate_default : validate {} = .ok () := validate_eq_ok_iff.mpr defects_default

end Config

/-! ## Packed form -/

open Packed (pack unpack packTag unpackTag packList unpackList)

instance : Packed Guid where
  pack g := pack g.octets
  unpack := do
    match Guid.ofOctets? (← unpack) with
    | some g => return g
    | none => failure

instance : Packed Config.Channel where
  pack
    | .device path => packTag 0 ++ pack path
    | .simulated apps => packTag 1 ++ packList apps
  unpack := do
    match ← unpackTag with
    | 0 => return .device (← unpack)
    | 1 => return .simulated (← unpackList)
    | _ => failure

instance : Packed Config where
  pack c :=
    pack c.serviceName ++ pack c.interfaceDescriptor ++ pack c.socketPath ++
      pack c.workerThreads ++ pack c.channel ++ pack c.clientGuid ++ pack c.eventPollInterval ++
      pack c.eventsEnabled ++ pack c.installEnabled ++ pack c.defaultBufferLength ++
      pack c.logLevel
  unpack :=
    return ⟨← unpack, ← unpack, ← unpack, ← unpack, ← unpack, ← unpack, ← unpack, ← unpack,
      ← unpack, ← unpack, ← unpack⟩

end AppletGateway
