import AppletGateway.Config
import AppletGateway.Json.Form
import AppletGateway.Json.Reader

/-!
# The text of a configuration

A configuration is written as a JSON object of its settings, or as an array of the first of them in
their order. A setting that is missing has its default, and what is not a setting is of no account.
The channel is an object with one member, named for the kind of channel.

Main statement:

* `Config.read?_record_nil`: the empty object stands for the defaults.
-/

namespace AppletGateway

open Json (Form)

instance : Form Guid where
  write g := .text (some g.toText)
  read? v := v.asText? >>= Guid.parse?

instance : Form Config.Channel where
  write
    | .device path => .variant "device" (.record [("path", Form.write path)])
    | .simulated apps => .variant "simulated" (.record [("preinstalled", Form.write apps)])
  read? v := do
    match ← v.asVariant? with
    | ("device", content) =>
      return .device (← Json.field? (← content.asFields? ["path"]) "path")
    | ("simulated", content) =>
      return .simulated (← Json.field? (← content.asFields? ["preinstalled"]) "preinstalled")
    | _ => failure

namespace Config

/-- The settings under their names, in order. -/
def fields (c : Config) : List (String × Json) :=
  [("service_name", Form.write c.serviceName),
    ("interface_descriptor", Form.write c.interfaceDescriptor),
    ("socket_path", Form.write c.socketPath),
    ("worker_threads", Form.write c.workerThreads),
    ("transport", Form.write c.channel),
    ("client_guid", Form.write c.clientGuid),
    ("event_poll_interval_ms", Form.write c.eventPollInterval),
    ("events_enabled", Form.write c.eventsEnabled),
    ("install_enabled", Form.write c.installEnabled),
    ("default_buffer_len", Form.write c.defaultBufferLength),
    ("log_level", Form.write c.logLevel)]

/-- The names of the settings, in order. -/
def names : List String := (fields {}).map Prod.fst

/-- Reads the settings of a configuration. -/
def ofFields? (fields : List (String × Json)) : Option Config := do
  let d : Config := {}
  return {
    serviceName := ← Json.fieldOr? fields "service_name" d.serviceName
    interfaceDescriptor := ← Json.fieldOr? fields "interface_descriptor" d.interfaceDescriptor
    socketPath := ← Json.fieldOr? fields "socket_path" d.socketPath
    workerThreads := ← Json.fieldOr? fields "worker_threads" d.workerThreads
    channel := ← Json.fieldOr? fields "transport" d.channel
    clientGuid := ← Json.fieldOr? fields "client_guid" d.clientGuid
    eventPollInterval := ← Json.fieldOr? fields "event_poll_interval_ms" d.eventPollInterval
    eventsEnabled := ← Json.fieldOr? fields "events_enabled" d.eventsEnabled
    installEnabled := ← Json.fieldOr? fields "install_enabled" d.installEnabled
    defaultBufferLength := ← Json.fieldOr? fields "default_buffer_len" d.defaultBufferLength
    logLevel := ← Json.fieldOr? fields "log_level" d.logLevel }

end Config

instance : Form Config where
  write c := .record c.fields
  read? v := v.asFields? Config.names >>= Config.ofFields?

namespace Config

/-- The configuration that a text spells, valid or not. -/
def parse? (text : String) : Option Config := Json.parse? text >>= Form.read?

/-- The valid configuration in the contents of a file, which are missing if there is no file
(`load`). -/
def load (contents : Option Bytes) : Except ConfigError Config :=
  match contents >>= Bytes.toText? with
  | none => .error .unreadable
  | some text =>
    match parse? text with
    | none => .error .malformed
    | some c => do
      c.validate
      return c

/-- The empty object stands for the defaults. -/
theorem read?_record_nil : (Form.read? (.record []) : Option Config) = some {} := rfl

end Config

end AppletGateway
