/-!
# JSON values

The values of JSON texts. Whoever takes a value decides what it has to be. Two things are therefore
kept open: a number is known exactly only if it is written as a natural number, and a text in which
half of a surrogate pair is escaped alone has no value, although it may stand where nobody looks at
it.

Records are written as objects of their fields and alternatives as objects with one member, which
is named for the alternative; an alternative without content is just its name.
-/

namespace AppletGateway

/-- A JSON value. -/
inductive Json
  | null
  | bool (b : Bool)
  /-- A number; its value if it is written without sign, fraction and exponent. -/
  | number (natural : Option Nat)
  /-- A text; its value unless it holds half a surrogate pair. -/
  | text (value : Option String)
  | array (items : List Json)
  /-- The members in the order in which they stand, with all that share a key. -/
  | object (members : List (Option String × Json))
  deriving Inhabited

namespace Json

/-! ## What a value is -/

/-- The value as a text. -/
def asText? : Json → Option String
  | text value => value
  | _ => none

/-- The value as a truth value. -/
def asBool? : Json → Option Bool
  | bool b => some b
  | _ => none

/-- The value as a natural number below `limit`. -/
def asNatBelow? (limit : Nat) : Json → Option Nat
  | number (some n) => if n < limit then some n else none
  | _ => none

/-- The name and the content of an alternative. -/
def asVariant? : Json → Option (String × Json)
  | text (some name) => some (name, null)
  | object [(some name, content)] => some (name, content)
  | _ => none

/-- The values of some fields, which stand in an object under their names, each at most once, or in
an array in their order. What else an object holds is of no account; an array holds nothing else. -/
def asFields? (names : List String) : Json → Option (List (String × Json))
  | array items =>
    if items.length ≤ names.length then some (names.zip items) else none
  | object members => do
    let keyed ← members.mapM fun (k, v) => k.map fun k => (k, v)
    let known := keyed.filter fun (k, _) => names.contains k
    if (known.map Prod.fst).Nodup then return known else none
  | _ => none

/-! ## Building values -/

/-- A record with some fields. -/
def record (fields : List (String × Json)) : Json := object (fields.map fun (k, v) => (some k, v))

/-- An alternative with a content. -/
def variant (name : String) (content : Json) : Json := object [(some name, content)]

theorem mapM_key_record : ∀ fields : List (String × Json),
    (fields.map fun (k, v) => (some k, v)).mapM (fun (k, v) => k.map fun k => (k, v)) = some fields
  | [] => rfl
  | e :: fields => by
    have ih := mapM_key_record fields
    simp only [List.map_cons, List.mapM_cons, ih]
    rfl

/-- The fields of a record are found again, whatever they hold. -/
theorem asFields?_record {fields : List (String × Json)} (h : (fields.map Prod.fst).Nodup) :
    (record fields).asFields? (fields.map Prod.fst) = some fields := by
  have hfilter : fields.filter (fun e => (fields.map Prod.fst).contains e.1) = fields := by
    apply List.filter_eq_self.mpr
    intro e he
    simpa using ⟨e.2, he⟩
  simp only [record, asFields?, mapM_key_record, Option.bind_eq_bind, Option.bind_some, hfilter, h,
    if_true]
  rfl

end Json

end AppletGateway
