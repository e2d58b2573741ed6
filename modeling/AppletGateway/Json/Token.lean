import AppletGateway.Hexadecimal

/-!
# The tokens of JSON texts

The parts of a JSON text, and how characters become tokens.
-/

namespace AppletGateway.Json

/-- The parts of a JSON text. -/
inductive Token
  | arrayOpen
  | arrayClose
  | objectOpen
  | objectClose
  | colon
  | comma
  | null
  | bool (b : Bool)
  | number (natural : Option Nat)
  | text (value : Option String)
  deriving DecidableEq

/-- Whether a character may stand between tokens. -/
def isBlank (c : Char) : Bool := c = ' ' || c = '\n' || c = '\t' || c = '\r'

/-- The number that four hexadecimal digits spell. -/
def hex4? (a b c d : Char) : Option Nat := do
  let high := (← Hexadecimal.value? a) * 16 + (← Hexadecimal.value? b)
  let low := (← Hexadecimal.value? c) * 16 + (← Hexadecimal.value? d)
  return high * 256 + low

/-- The character that a letter stands for after a backslash. -/
def escaped? : Char → Option Char
  | '"' => some '"'
  | '\\' => some '\\'
  | '/' => some '/'
  | 'b' => some '\x08'
  | 'f' => some '\x0c'
  | 'n' => some '\n'
  | 'r' => some '\r'
  | 't' => some '\t'
  | _ => none

/-- A text as far as it has been read. -/
structure Partial where
  /-- The characters so far, last first. -/
  chars : List Char := []
  /-- The first half of a surrogate pair whose second half has to follow. -/
  high : Option Nat := none
  /-- Whether every surrogate so far had its other half. -/
  paired : Bool := true

namespace Partial

/-- The text with one more character. -/
def push (c : Char) (p : Partial) : Partial :=
  { chars := c :: p.chars, high := none, paired := p.paired && p.high.isNone }

/-- The text with one more escaped UTF-16 unit. -/
def pushUnit (n : Nat) (p : Partial) : Partial :=
  if 0xDC00 ≤ n ∧ n ≤ 0xDFFF then
    match p.high with
    | some h =>
      { p with
        chars := Char.ofNat (0x10000 + (h - 0xD800) * 1024 + (n - 0xDC00)) :: p.chars
        high := none }
    | none => { p with paired := false }
  else if 0xD800 ≤ n ∧ n ≤ 0xDBFF then
    { p with high := some n, paired := p.paired && p.high.isNone }
  else p.push (Char.ofNat n)

/-- The text, if no surrogate is alone. -/
def value? (p : Partial) : Option String :=
  if p.paired && p.high.isNone then some (String.ofList p.chars.reverse) else none

end Partial

/-- Reads the rest of a text up to its closing quote. -/
def lexText (p : Partial) : List Char → Option (Option String × List Char)
  | [] => none
  | '"' :: rest => some (p.value?, rest)
  | '\\' :: 'u' :: a :: b :: c :: d :: rest =>
    match hex4? a b c d with
    | some n => lexText (p.pushUnit n) rest
    | none => none
  | '\\' :: e :: rest =>
    match escaped? e with
    | some c => lexText (p.push c) rest
    | none => none
  | c :: rest => if c.toNat < 32 then none else lexText (p.push c) rest

/-- The decimal digits in front. -/
def digits (cs : List Char) : List Char := cs.takeWhile Char.isDigit

/-- What follows the decimal digits in front. -/
def afterDigits (cs : List Char) : List Char := cs.dropWhile Char.isDigit

/-- The number that decimal digits spell. -/
def ofDigits (ds : List Char) : Nat := ds.foldl (fun n d => 10 * n + (d.toNat - 48)) 0

/-- Reads a fraction, if one follows: whether it does, and the rest. -/
def lexFraction : List Char → Option (Bool × List Char)
  | '.' :: cs => if digits cs = [] then none else some (true, afterDigits cs)
  | cs => some (false, cs)

/-- Drops a sign. -/
def skipSign : List Char → List Char
  | '+' :: cs => cs
  | '-' :: cs => cs
  | cs => cs

/-- Reads an exponent, if one follows: whether it does, and the rest. -/
def lexExponent (cs : List Char) : Option (Bool × List Char) :=
  match cs with
  | [] => some (false, [])
  | c :: rest =>
    if c = 'e' ∨ c = 'E' then
      let rest := skipSign rest
      if digits rest = [] then none else some (true, afterDigits rest)
    else some (false, cs)

/-- Reads a number without its sign. Zero is not followed by further digits. -/
def lexMagnitude (cs : List Char) : Option (Option Nat × List Char) := do
  let whole := digits cs
  if whole = [] ∨ (whole.head? = some '0' ∧ whole ≠ ['0']) then none
  let (fraction, rest) ← lexFraction (afterDigits cs)
  let (exponent, rest) ← lexExponent rest
  return (if fraction || exponent then none else some (ofDigits whole), rest)

/-- Reads a token that starts with `c`. -/
def lexToken (c : Char) (rest : List Char) : Option (Token × List Char) :=
  match c, rest with
  | '[', _ => some (.arrayOpen, rest)
  | ']', _ => some (.arrayClose, rest)
  | '\x7b', _ => some (.objectOpen, rest)
  | '\x7d', _ => some (.objectClose, rest)
  | ':', _ => some (.colon, rest)
  | ',', _ => some (.comma, rest)
  | 'n', 'u' :: 'l' :: 'l' :: rest => some (.null, rest)
  | 't', 'r' :: 'u' :: 'e' :: rest => some (.bool true, rest)
  | 'f', 'a' :: 'l' :: 's' :: 'e' :: rest => some (.bool false, rest)
  | '"', _ => (lexText {} rest).map fun (value, rest) => (.text value, rest)
  | '-', _ => (lexMagnitude rest).map fun (_, rest) => (.number none, rest)
  | _, _ => (lexMagnitude (c :: rest)).map fun (natural, rest) => (.number natural, rest)

/-- The tokens of a text of at most `limit` characters, after those read already, which are given
last first. -/
def lex : (limit : Nat) → (read : List Token) → List Char → Option (List Token)
  | _, read, [] => some read.reverse
  | 0, _, _ => none
  | limit + 1, read, c :: rest =>
    if isBlank c then lex limit read rest
    else
      match lexToken c rest with
      | none => none
      | some (token, rest) => lex limit (token :: read) rest

end AppletGateway.Json
