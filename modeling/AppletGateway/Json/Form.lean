import AppletGateway.Bytes
import AppletGateway.Json.Basic

/-!
# Values with a JSON form

How the basic types are written in JSON: words are numbers and byte strings are arrays of numbers.
-/

namespace AppletGateway.Json

/-- Types whose values are written in JSON. -/
class Form (α : Type) where
  write : α → Json
  read? : Json → Option α

namespace Form

instance : Form String where
  write s := text (some s)
  read? := asText?

instance : Form Bool where
  write := bool
  read? := asBool?

instance : Form UInt8 where
  write n := number (some n.toNat)
  read? v := (v.asNatBelow? UInt8.size).map UInt8.ofNat

instance : Form UInt32 where
  write n := number (some n.toNat)
  read? v := (v.asNatBelow? UInt32.size).map UInt32.ofNat

instance : Form UInt64 where
  write n := number (some n.toNat)
  read? v := (v.asNatBelow? UInt64.size).map UInt64.ofNat

instance {α : Type} [Form α] : Form (List α) where
  write xs := array (xs.map write)
  read?
    | array items => items.mapM read?
    | _ => none

end Form

/-- The value of a field that has to be there. -/
def field? {α : Type} [Form α] (fields : List (String × Json)) (name : String) : Option α :=
  fields.lookup name >>= Form.read?

/-- The value of a field, or its default if the field is missing. -/
def fieldOr? {α : Type} [Form α] (fields : List (String × Json)) (name : String) (default : α) :
    Option α :=
  match fields.lookup name with
  | none => some default
  | some v => Form.read? v

end AppletGateway.Json
