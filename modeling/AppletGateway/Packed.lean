import AppletGateway.Bytes

/-!
# Packed values

The compact binary form of messages. Numbers, lengths and the tag of an alternative are written in
base 128, lowest digit first, every byte but the last with its high bit set; byte strings, texts
and lists carry their length in front; a truth value is one byte. Fields follow one another
without padding, and what comes after a value is left for the next reader.

A number may be read from more digits than it needs, as long as there are not more than its width
allows and the value fits.

Main statements:

* `Varint.read_write`: a written number is read back, whatever follows it.
* `Varint.length_write_le`: no form of a number is shorter than the written one.
-/

namespace AppletGateway

/-- Reads a value from the front of a byte string and leaves the rest; `none` if there is none. -/
abbrev Unpack := StateT Bytes Option

/-- Values that have a packed form. -/
class Packed (α : Type) where
  pack : α → Bytes
  unpack : Unpack α

/-! ## Numbers in base 128 -/

namespace Varint

/-- The base-128 form of `n`, cut off after `digits` bytes. -/
def write : (digits : Nat) → (n : Nat) → Bytes
  | 0, _ => []
  | digits + 1, n =>
    if n < 128 then [UInt8.ofNat n]
    else UInt8.ofNat (128 + n % 128) :: write digits (n / 128)

/-- Reads a number of at most `digits` bytes. -/
def read : (digits : Nat) → Unpack Nat
  | 0, _ => none
  | _ + 1, [] => none
  | digits + 1, b :: rest =>
    if b.toNat < 128 then some (b.toNat, rest)
    else (read digits rest).map fun (n, rest) => (b.toNat - 128 + 128 * n, rest)

/-- Reads a number of at most `digits` bytes that is below `limit`. -/
def readBelow (digits limit : Nat) : Unpack Nat := fun b =>
  (read digits b).filter fun (n, _) => n < limit

/-- How many numbers can be written in `digits` bytes. -/
def range : (digits : Nat) → Nat
  | 0 => 1
  | digits + 1 => 128 * range digits

/-- A written number is read back, whatever follows it. -/
theorem read_write (rest : Bytes) : ∀ {digits n : Nat}, n < range (digits + 1) →
    read (digits + 1) (write (digits + 1) n ++ rest) = some (n, rest)
  | digits, n, h => by
    unfold write
    split
    · rename_i hn
      have : (UInt8.ofNat n).toNat = n := by simp only [UInt8.toNat_ofNat']; omega
      simp only [read, List.cons_append, List.nil_append, this, hn, if_true]
    · rename_i hn
      have hb : (UInt8.ofNat (128 + n % 128)).toNat = 128 + n % 128 := by
        simp only [UInt8.toNat_ofNat']; omega
      have hge : ¬ (128 + n % 128 < 128) := by omega
      have hsum : 128 + n % 128 - 128 + 128 * (n / 128) = n := by omega
      match digits with
      | 0 =>
        simp only [range] at h
        omega
      | digits + 1 =>
        have hlt : n / 128 < range (digits + 1) := by
          rw [range] at h
          omega
        simp only [read, List.cons_append, hb, hge, if_false, read_write rest hlt,
          Option.map_some, hsum]

/-- Reading consumes at least the bytes that writing the number takes. -/
theorem length_write_le : ∀ {digits n : Nat} {b rest : Bytes},
    read digits b = some (n, rest) → (write digits n).length + rest.length ≤ b.length
  | 0, _, _, _, h => by simp [read] at h
  | _ + 1, _, [], _, h => by simp [read] at h
  | digits + 1, n, x :: b, rest, h => by
    have hx := x.toNat_lt
    unfold read at h
    unfold write
    split at h
    · rename_i hlt
      simp only [Option.some.injEq, Prod.mk.injEq] at h
      obtain ⟨rfl, rfl⟩ := h
      simp [hlt]
      omega
    · rename_i hge
      obtain ⟨⟨m, rest'⟩, hm, he⟩ := Option.map_eq_some_iff.mp h
      simp only [Prod.mk.injEq] at he
      obtain ⟨rfl, rfl⟩ := he
      have ih := length_write_le hm
      split
      · simp only [List.length_cons, List.length_nil]
        omega
      · have : (x.toNat - 128 + 128 * m) / 128 = m := by omega
        rw [this]
        simp only [List.length_cons]
        omega

end Varint

/-! ## Packed forms of the basic types -/

namespace Packed

/-- The tag of an alternative. -/
def packTag (n : Nat) : Bytes := Varint.write 5 n

/-- Reads the tag of an alternative. -/
def unpackTag : Unpack Nat := Varint.readBelow 5 (UInt32.size)

/-- The length of what follows. -/
def packLength (n : Nat) : Bytes := Varint.write 10 n

/-- Reads the length of what follows. -/
def unpackLength : Unpack Nat := Varint.readBelow 10 (UInt64.size)

/-- Reads exactly `n` bytes. -/
def unpackBytes (n : Nat) : Unpack Bytes := fun b =>
  if n ≤ b.length then some (b.take n, b.drop n) else none

/-- Reads `n` items after those read already, which are given last first. -/
def unpackItems {α : Type} (item : Unpack α) : (n : Nat) → (done : List α) → Unpack (List α)
  | 0, done, b => some (done.reverse, b)
  | n + 1, done, b =>
    match item b with
    | none => none
    | some (x, rest) => unpackItems item n (x :: done) rest

instance : Packed UInt32 where
  pack n := Varint.write 5 n.toNat
  unpack := do return UInt32.ofNat (← Varint.readBelow 5 (UInt32.size))

instance : Packed UInt64 where
  pack n := Varint.write 10 n.toNat
  unpack := do return UInt64.ofNat (← Varint.readBelow 10 (UInt64.size))

instance : Packed Bool where
  pack b := [if b then 1 else 0]
  unpack
    | 0 :: rest => some (false, rest)
    | 1 :: rest => some (true, rest)
    | _ => none

instance : Packed Bytes where
  pack b := packLength b.length ++ b
  unpack := do unpackBytes (← unpackLength)

instance : Packed String where
  pack s := Packed.pack (Bytes.ofText s)
  unpack := do
    let b : Bytes ← Packed.unpack
    match Bytes.toText? b with
    | some s => return s
    | none => failure

/-- The packed form of a list: its length and its items. -/
def packList {α : Type} [Packed α] (xs : List α) : Bytes :=
  packLength xs.length ++ xs.flatMap Packed.pack

/-- Reads a list: its length and its items. -/
def unpackList {α : Type} [Packed α] : Unpack (List α) := do
  unpackItems Packed.unpack (← unpackLength) []

/-- The value at the front of `b`; what follows it is ignored. -/
def read? {α : Type} [Packed α] (b : Bytes) : Option α := (Packed.unpack b).map Prod.fst

end Packed

end AppletGateway
