import AppletGateway.Hexadecimal

/-!
# Globally unique identifiers

The 128-bit number that names the logical client of the co-processor. Its text has the groups
8-4-4-4-12 of hexadecimal digits; it is read from that form, bare, in braces or after `urn:uuid:`,
and from the thirty-two digits without hyphens.
-/

namespace AppletGateway

/-- A 128-bit identifier. -/
structure Guid where
  octets : Bytes
  length_octets : octets.length = 16

namespace Guid

@[ext]
theorem ext {a b : Guid} (h : a.octets = b.octets) : a = b := by
  cases a; cases b; cases h; rfl

instance : DecidableEq Guid := fun a b =>
  if h : a.octets = b.octets then .isTrue (ext h) else .isFalse fun e => h (e ▸ rfl)

/-- The identifier of no client. -/
def nil : Guid := ⟨List.replicate 16 0, by simp⟩

instance : Inhabited Guid := ⟨nil⟩

/-- The identifier with these octets, if there are sixteen. -/
def ofOctets? (b : Bytes) : Option Guid :=
  if h : b.length = 16 then some ⟨b, h⟩ else none

/-! ## Text -/

/-- The grouped form, lower case. -/
def toText (g : Guid) : String :=
  let d := Hexadecimal.ofBytes g.octets
  String.ofList (d.take 8 ++ '-' :: (d.drop 8).take 4 ++ '-' :: (d.drop 12).take 4 ++
    '-' :: (d.drop 16).take 4 ++ '-' :: d.drop 20)

/-- Reads thirty-two digits. -/
def ofDigits? (cs : List Char) : Option Guid := do ofOctets? (← Hexadecimal.toBytes? cs)

/-- Reads the grouped form: hyphens in their four places and digits elsewhere. -/
def ofGroups? (cs : List Char) : Option Guid :=
  if cs.length = 36 ∧ cs[8]? = some '-' ∧ cs[13]? = some '-' ∧ cs[18]? = some '-' ∧
      cs[23]? = some '-' then
    ofDigits? (cs.take 8 ++ (cs.drop 9).take 4 ++ (cs.drop 14).take 4 ++ (cs.drop 19).take 4 ++
      cs.drop 24)
  else none

/-- Reads any of the accepted forms. -/
def parse? (text : String) : Option Guid :=
  let cs := text.toList
  if cs.length = 32 then ofDigits? cs
  else if cs.length = 38 ∧ cs.head? = some '\x7b' ∧ cs.getLast? = some '\x7d' then
    ofGroups? ((cs.drop 1).take 36)
  else if cs.length = 45 ∧ cs.take 9 = "urn:uuid:".toList then ofGroups? (cs.drop 9)
  else ofGroups? cs

end Guid

end AppletGateway
