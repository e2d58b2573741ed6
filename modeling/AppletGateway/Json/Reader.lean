import AppletGateway.Json.Basic
import AppletGateway.Json.Token

/-!
# Reading JSON texts

Tokens build a value on a stack of the containers that are still open, so that nesting may go to
any depth.
-/

namespace AppletGateway.Json

/-- A container that is still open, with what it holds so far, last first. -/
inductive Open
  | array (items : List Json)
  /-- An object that waits for the value of `key`. -/
  | object (members : List (Option String × Json)) (key : Option String)

/-- What has been read of a text, and so what may follow. -/
inductive Reading
  /-- A value has to follow. -/
  | value (around : List Open)
  /-- An array was opened: its first item or its end. -/
  | arrayStart (around : List Open)
  /-- An object was opened: its first key or its end. -/
  | objectStart (around : List Open)
  /-- A comma in an object: a key. -/
  | key (members : List (Option String × Json)) (around : List Open)
  /-- A key: a colon. -/
  | colon (members : List (Option String × Json)) (key : Option String) (around : List Open)
  /-- A value: a comma or the end of what is around it. -/
  | complete (value : Json) (around : List Open)

namespace Reading

/-- A value starts with a token. -/
def start (around : List Open) : Token → Option Reading
  | .arrayOpen => some (.arrayStart around)
  | .objectOpen => some (.objectStart around)
  | .null => some (.complete .null around)
  | .bool b => some (.complete (.bool b) around)
  | .number n => some (.complete (.number n) around)
  | .text s => some (.complete (.text s) around)
  | _ => none

/-- One more token. -/
def step (token : Token) : Reading → Option Reading
  | value around => start around token
  | arrayStart around =>
    if token = .arrayClose then some (complete (.array []) around)
    else start (.array [] :: around) token
  | objectStart around =>
    match token with
    | .objectClose => some (complete (.object []) around)
    | .text k => some (colon [] k around)
    | _ => none
  | key members around =>
    match token with
    | .text k => some (colon members k around)
    | _ => none
  | colon members k around =>
    if token = .colon then some (value (.object members k :: around)) else none
  | complete v around =>
    match token, around with
    | .comma, .array items :: around => some (value (.array (v :: items) :: around))
    | .comma, .object members k :: around => some (key ((k, v) :: members) around)
    | .arrayClose, .array items :: around => some (complete (.array (v :: items).reverse) around)
    | .objectClose, .object members k :: around =>
      some (complete (.object ((k, v) :: members).reverse) around)
    | _, _ => none

/-- The value, if nothing more has to follow. -/
def value? : Reading → Option Json
  | complete v [] => some v
  | _ => none

end Reading

/-- The value that tokens build. -/
def build (tokens : List Token) : Option Json := do
  (← tokens.foldlM (fun r t => Reading.step t r) (.value [])).value?

/-- The value that a text spells. -/
def parse? (s : String) : Option Json := do
  let cs := s.toList
  build (← lex cs.length [] cs)

end AppletGateway.Json
