import AppletGateway.Bytes

/-!
# Hexadecimal digits

Byte strings in pairs of hexadecimal digits. Digits are written in lower case and read in either.

Main statement:

* `Hexadecimal.toBytes?_ofBytes`: written bytes are read back.
-/

namespace AppletGateway.Hexadecimal

/-- The digit for a number below sixteen. -/
def digit (n : Nat) : Char := Char.ofNat (if n < 10 then 48 + n else 87 + n)

/-- The value of a digit. -/
def value? (c : Char) : Option Nat :=
  if '0' ≤ c ∧ c ≤ '9' then some (c.toNat - 48)
  else if 'a' ≤ c ∧ c ≤ 'f' then some (c.toNat - 87)
  else if 'A' ≤ c ∧ c ≤ 'F' then some (c.toNat - 55)
  else none

/-- A written digit is read back. -/
theorem value?_digit : ∀ n < 16, value? (digit n) = some n := by decide

/-- The two digits of every byte. -/
def ofBytes (b : Bytes) : List Char :=
  b.flatMap fun o => [digit (o.toNat / 16), digit (o.toNat % 16)]

/-- The bytes that pairs of digits spell. -/
def toBytes? : List Char → Option Bytes
  | [] => some []
  | [_] => none
  | h :: l :: cs => do
    let h ← value? h
    let l ← value? l
    let rest ← toBytes? cs
    return UInt8.ofNat (16 * h + l) :: rest

/-- Written bytes are read back. -/
theorem toBytes?_ofBytes : ∀ b : Bytes, toBytes? (ofBytes b) = some b
  | [] => rfl
  | o :: b => by
    have ih := toBytes?_ofBytes b
    have ho := o.toNat_lt
    have hsum : UInt8.ofNat (16 * (o.toNat / 16) + o.toNat % 16) = o := by
      rw [Nat.div_add_mod]
      exact UInt8.ofNat_toNat
    have hstep : ofBytes (o :: b) = digit (o.toNat / 16) :: digit (o.toNat % 16) :: ofBytes b := rfl
    rw [hstep, toBytes?, value?_digit (o.toNat / 16) (by omega),
      value?_digit (o.toNat % 16) (by omega), ih]
    exact congrArg (fun x => some (x :: b)) hsum

end AppletGateway.Hexadecimal
