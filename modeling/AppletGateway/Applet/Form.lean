import AppletGateway.Applet.Message
import AppletGateway.Json.Form

/-!
# The JSON form of messages

The messages of the co-processor as tools and logs show them. A message is named for its kind and
holds its fields under their names.
-/

namespace AppletGateway.Applet

open Json (Form variant record field?)

instance : Form Source where
  write
    | .applet => .text (some "Applet")
    | .firmware => .text (some "Firmware")
  read? v := do
    match ← v.asVariant? with
    | ("Applet", .null) => return .applet
    | ("Firmware", .null) => return .firmware
    | _ => failure

instance : Form Event where
  write e :=
    record [("app", Form.write e.app), ("data", Form.write e.data),
      ("source", Form.write e.source)]
  read? v := do
    let f ← v.asFields? ["app", "data", "source"]
    return ⟨← field? f "app", ← field? f "data", ← field? f "source"⟩

/-- The name of a request and its fields. -/
def Request.fields : Request → String × List (String × Json)
  | openSession app shared => ("Open", [("app", Form.write app), ("shared", Form.write shared)])
  | closeSession app => ("Close", [("app", Form.write app)])
  | install app source => ("Install", [("app", Form.write app), ("source", Form.write source)])
  | uninstall app => ("Uninstall", [("app", Form.write app)])
  | startProvisioning app => ("StartProvisioning", [("app", Form.write app)])
  | endProvisioning app handle capacity =>
    ("EndProvisioning", [("app", Form.write app), ("handle", Form.write handle),
      ("capacity", Form.write capacity)])
  | sendData app handle dataType data =>
    ("SendData", [("app", Form.write app), ("handle", Form.write handle),
      ("data_type", Form.write dataType), ("data", Form.write data)])
  | receiveData app handle dataType capacity =>
    ("ReceiveData", [("app", Form.write app), ("handle", Form.write handle),
      ("data_type", Form.write dataType), ("capacity", Form.write capacity)])
  | sendAndReceive app handle dataType data capacity =>
    ("SendAndReceive", [("app", Form.write app), ("handle", Form.write handle),
      ("data_type", Form.write dataType), ("data", Form.write data),
      ("capacity", Form.write capacity)])
  | capabilities app capType capacity =>
    ("Capabilities", [("app", Form.write app), ("cap_type", Form.write capType),
      ("capacity", Form.write capacity)])
  | getOtp app handle token vendorData otpCapacity tokenCapacity =>
    ("GetOtp", [("app", Form.write app), ("handle", Form.write handle),
      ("token", Form.write token), ("vendor_data", Form.write vendorData),
      ("otp_capacity", Form.write otpCapacity), ("token_capacity", Form.write tokenCapacity)])
  | otpsStatus app handle statusType =>
    ("OtpsStatus", [("app", Form.write app), ("handle", Form.write handle),
      ("status_type", Form.write statusType)])
  | subscribe app => ("Subscribe", [("app", Form.write app)])
  | unsubscribe app => ("Unsubscribe", [("app", Form.write app)])

/-- The names of the fields of a kind of request. -/
def Request.fieldNames : String → List String
  | "Open" => ["app", "shared"]
  | "Install" => ["app", "source"]
  | "EndProvisioning" => ["app", "handle", "capacity"]
  | "SendData" => ["app", "handle", "data_type", "data"]
  | "ReceiveData" => ["app", "handle", "data_type", "capacity"]
  | "SendAndReceive" => ["app", "handle", "data_type", "data", "capacity"]
  | "Capabilities" => ["app", "cap_type", "capacity"]
  | "GetOtp" => ["app", "handle", "token", "vendor_data", "otp_capacity", "token_capacity"]
  | "OtpsStatus" => ["app", "handle", "status_type"]
  | _ => ["app"]

instance : Form Request where
  write r := variant r.fields.1 (record r.fields.2)
  read? v := do
    let (name, content) ← v.asVariant?
    let f ← content.asFields? (Request.fieldNames name)
    match name with
    | "Open" => return .openSession (← field? f "app") (← field? f "shared")
    | "Close" => return .closeSession (← field? f "app")
    | "Install" => return .install (← field? f "app") (← field? f "source")
    | "Uninstall" => return .uninstall (← field? f "app")
    | "StartProvisioning" => return .startProvisioning (← field? f "app")
    | "EndProvisioning" =>
      return .endProvisioning (← field? f "app") (← field? f "handle") (← field? f "capacity")
    | "SendData" =>
      return .sendData (← field? f "app") (← field? f "handle") (← field? f "data_type")
        (← field? f "data")
    | "ReceiveData" =>
      return .receiveData (← field? f "app") (← field? f "handle") (← field? f "data_type")
        (← field? f "capacity")
    | "SendAndReceive" =>
      return .sendAndReceive (← field? f "app") (← field? f "handle") (← field? f "data_type")
        (← field? f "data") (← field? f "capacity")
    | "Capabilities" =>
      return .capabilities (← field? f "app") (← field? f "cap_type") (← field? f "capacity")
    | "GetOtp" =>
      return .getOtp (← field? f "app") (← field? f "handle") (← field? f "token")
        (← field? f "vendor_data") (← field? f "otp_capacity") (← field? f "token_capacity")
    | "OtpsStatus" =>
      return .otpsStatus (← field? f "app") (← field? f "handle") (← field? f "status_type")
    | "Subscribe" => return .subscribe (← field? f "app")
    | "Unsubscribe" => return .unsubscribe (← field? f "app")
    | _ => failure

instance : Form Reply where
  write
    | .done => .text (some "Done")
    | .handle h => variant "Handle" (Form.write h)
    | .value v => variant "Value" (Form.write v)
    | .data d => variant "Data" (Form.write d)
    | .otp password token =>
      variant "Otp" (record [("otp", Form.write password), ("token", Form.write token)])
    | .tooSmall required => variant "TooSmall" (record [("required", Form.write required)])
    | .failed code => variant "Failed" (Form.write code)
  read? v := do
    match ← v.asVariant? with
    | ("Done", .null) => return .done
    | ("Handle", h) => return .handle (← Form.read? h)
    | ("Value", v) => return .value (← Form.read? v)
    | ("Data", d) => return .data (← Form.read? d)
    | ("Otp", content) => do
      let f ← content.asFields? ["otp", "token"]
      return .otp (← field? f "otp") (← field? f "token")
    | ("TooSmall", content) =>
      return .tooSmall (← field? (← content.asFields? ["required"]) "required")
    | ("Failed", code) => return .failed (← Form.read? code)
    | _ => failure

instance : Form Inbound where
  write
    | .reply r => variant "Reply" (Form.write r)
    | .event e => variant "Event" (Form.write e)
  read? v := do
    match ← v.asVariant? with
    | ("Reply", r) => return .reply (← Form.read? r)
    | ("Event", e) => return .event (← Form.read? e)
    | _ => failure

/-- A request is written with the fields that are read for its kind. -/
theorem Request.names_fields (r : Request) :
    r.fields.2.map Prod.fst = Request.fieldNames r.fields.1 := by
  cases r <;> rfl

end AppletGateway.Applet
