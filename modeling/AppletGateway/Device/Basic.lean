import AppletGateway.Applet.Message
import AppletGateway.Table

/-!
# The simulated co-processor: its embedded apps

A small host of embedded apps that stands in for the hardware.

* An app has to be installed, from a source whose name ends in `.dalp`, before a session with it
  can be opened.
* Provisioning handles start at `0x1000`, and each comes with a token of sixteen bytes.
* Data sent is kept per app and type, and received once; sent and received at once it comes back
  reversed.
* Capability type 1 is the version of the app, type 2 that of the host.
* One-time passwords are eight decimal digits.

An operator can raise events, take the device off line, have it refuse the next request and have it
send an unreadable frame ahead of the next reply.
-/

namespace AppletGateway

open Applet (Event noHandle)

/-- What the device holds (`SimState`). -/
structure Device where
  installed : List String := []
  /-- The open sessions; the value says whether a session is shared. -/
  sessions : Table String Bool := Table.empty
  subscribed : List String := []
  /-- The live provisioning handles, each with its app and its token. -/
  provisioning : Table UInt32 (String × Bytes) := Table.empty
  /-- The data kept, by app and type. -/
  mailbox : Table (String × UInt32) Bytes := Table.empty
  /-- The events raised and not sent yet, oldest first. -/
  pending : List Event := []
  nextHandle : UInt32 := 0
  otpCount : UInt32 := 0
  offline : Bool := false
  /-- The code to refuse the next request with. -/
  refuseNext : Option UInt32 := none
  /-- Whether an unreadable frame goes out ahead of the next reply. -/
  garbleNext : Bool := false
  /-- The requests that reached the device, oldest first. -/
  received : List Applet.Request := []
  deriving Inhabited

namespace Device

/-- The first provisioning handle (`FIRST_HANDLE`). -/
def firstHandle : UInt32 := 0x1000

/-- The version of an app, with the zero that ends it (`APP_VERSION`). -/
def appVersion : Bytes := Bytes.ofText "2.1.0" ++ [0]

/-- The version of the host, with the zero that ends it (`HOST_VERSION`). -/
def hostVersion : Bytes := Bytes.ofText "3.0.1" ++ [0]

/-- What the name of an app's source ends in (`INSTALL_EXT`). -/
def sourceExtension : String := ".dalp"

/-- The device with some apps installed (`with_apps`). -/
def ofApps (apps : List String) : Device := { installed := apps }

/-! ## The operator's side -/

/-- Installs an app. -/
def install (app : String) (d : Device) : Device := { d with installed := d.installed.insert app }

/-- Raises an event; it goes out with the next reply or when it is asked for (`inject_event`). -/
def inject (app : String) (data : Bytes) (d : Device) : Device :=
  { d with pending := d.pending ++ [⟨app, data, .applet⟩] }

/-- Whether an app is installed. -/
def isInstalled (d : Device) (app : String) : Bool := d.installed.contains app

/-- Whether a session with an app is open. -/
def isOpen (d : Device) (app : String) : Bool := d.sessions.contains app

/-- Whether an app's events are subscribed to. -/
def isSubscribed (d : Device) (app : String) : Bool := d.subscribed.contains app

/-! ## Sessions -/

/-- Closes every session (`close_all`). -/
def closeAll (d : Device) : Device :=
  { d with sessions := Table.empty, subscribed := [], provisioning := Table.empty }

/-- Closes the session with an app and everything that belongs to it. -/
def close (app : String) (d : Device) : Device :=
  { d with
    sessions := d.sessions.erase app
    subscribed := d.subscribed.filter (· ≠ app)
    provisioning := d.provisioning.filter fun _ p => p.1 ≠ app }

/-- Closes the session with an app and drops its data (`forget`). -/
def forget (app : String) (d : Device) : Device :=
  { d.close app with mailbox := d.mailbox.filter fun k _ => k.1 ≠ app }

/-! ## Answering requests -/

/-- A step in answering a request: it may end the answer early with a reply. -/
abbrev Answering := ExceptT Applet.Reply (StateM Device)

/-- Ends the answer with a status. -/
def refuse {α : Type} (s : Status) : Answering α := throw (.ofStatus s)

/-- The session with an app, which has to be open: whether it is shared (`require_open`). -/
def requireOpen (app : String) : Answering Bool := do
  match (← get).sessions.get? app with
  | some shared => return shared
  | none => refuse .appletUnexpectedCall

/-- A handle other than none has to be live and to belong to the app (`require_handle`). -/
def requireHandle (app : String) (handle : UInt32) : Answering Unit := do
  if handle = noHandle then return
  match (← get).provisioning.get? handle with
  | some (owner, _) => if owner = app then return else refuse .appletInvalidHandle
  | none => refuse .appletInvalidHandle

/-- The token of a provisioning handle: sixteen bytes that count up from its lowest byte. -/
def tokenOf (handle : UInt32) : Bytes :=
  (List.range 16).map fun i => handle.toUInt8 + UInt8.ofNat i

/-- A number as eight decimal digits. -/
def eightDigits (n : Nat) : Bytes :=
  [10000000, 1000000, 100000, 10000, 1000, 100, 10, 1].map fun place =>
    UInt8.ofNat (48 + n / place % 10)

/-- The next one-time password (`next_otp`). -/
def nextOtp : Answering Bytes := do
  modify fun d => { d with otpCount := d.otpCount + 1 }
  return eightDigits (((← get).otpCount * 7919 + 13579) % 100000000).toNat

/-- Answers a request (`dispatch`). -/
def answer : Applet.Request → Answering Applet.Reply
  | .openSession app shared => do
    if !(← get).isInstalled app then refuse .appletNotInstalled
    modify fun d => { d with sessions := d.sessions.set app shared }
    return .done
  | .closeSession app => do
    modify (close app)
    return .done
  | .install app source => do
    if !source.endsWith sourceExtension then refuse .appletInvalidFileExtension
    modify (install app)
    return .done
  | .uninstall app => do
    if !(← get).isInstalled app then refuse .appletNotInstalled
    modify fun d => { d.forget app with installed := d.installed.filter (· ≠ app) }
    return .done
  | .startProvisioning app => do
    let _ ← requireOpen app
    let handle := max (← get).nextHandle firstHandle
    modify fun d => { d with
      nextHandle := handle + 1
      provisioning := d.provisioning.set handle (app, tokenOf handle) }
    return .handle handle
  | .endProvisioning app handle capacity => do
    if handle = noHandle then refuse .appletInvalidHandle
    requireHandle app handle
    match (← get).provisioning.get? handle with
    | none => refuse .appletInvalidHandle
    | some (_, token) =>
      if capacity.toNat < token.length then return .tooSmall [UInt32.ofNat token.length]
      modify fun d => { d with provisioning := d.provisioning.erase handle }
      return .data token
  | .sendData app handle dataType data => do
    let _ ← requireOpen app
    requireHandle app handle
    modify fun d => { d with mailbox := d.mailbox.set (app, dataType) data }
    return .done
  | .receiveData app handle dataType capacity => do
    let _ ← requireOpen app
    requireHandle app handle
    match (← get).mailbox.get? (app, dataType) with
    | none => refuse .appletInvalidMessage
    | some data =>
      if capacity.toNat < data.length then return .tooSmall [UInt32.ofNat data.length]
      modify fun d => { d with mailbox := d.mailbox.erase (app, dataType) }
      return .data data
  | .sendAndReceive app handle _ data capacity => do
    let _ ← requireOpen app
    requireHandle app handle
    return .ofData (Negotiation.fit data.reverse capacity)
  | .capabilities app capType capacity => do
    let _ ← requireOpen app
    match capType with
    | 1 => return .ofData (Negotiation.fit appVersion capacity)
    | 2 => return .ofData (Negotiation.fit hostVersion capacity)
    | _ => refuse .appletInvalidType
  | .getOtp app handle token _ otpCapacity tokenCapacity => do
    let _ ← requireOpen app
    if handle = noHandle ∧ token = [] then refuse .appletInvalidToken
    requireHandle app handle
    let refreshed := if tokenCapacity = 0 then [] else token.map (· + 1)
    match Negotiation.fitPair (← nextOtp) otpCapacity refreshed tokenCapacity with
    | .complete (password, token) => return .otp password token
    | .tooSmall required => return .tooSmall required.toList
  | .otpsStatus app handle _ => do
    let _ ← requireOpen app
    requireHandle app handle
    return .value (if handle = noHandle then 0 else 1)
  | .subscribe app => do
    -- Notifications need an exclusive session.
    if ← requireOpen app then refuse .appletUnexpectedCall
    modify fun d => { d with subscribed := d.subscribed.insert app }
    return .done
  | .unsubscribe app => do
    modify fun d => { d with subscribed := d.subscribed.filter (· ≠ app) }
    return .done

/-- Takes a request: it is refused if the operator said so, and answered otherwise (`handle`). -/
def handle (request : Applet.Request) (d : Device) : Applet.Reply × Device :=
  let d := { d with received := d.received ++ [request] }
  match d.refuseNext with
  | some code => (.failed code, { d with refuseNext := none })
  | none =>
    match (answer request).run d with
    | (.ok reply, d) => (reply, d)
    | (.error reply, d) => (reply, d)

end Device

end AppletGateway
