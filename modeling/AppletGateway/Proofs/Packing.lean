import AppletGateway.Applet.Message
import Mathlib.Logic.Basic

/-!
# Packed messages are read back

A packed value followed by other bytes is read back from its front and leaves these bytes. The
lengths in a packed form are of 64 bits. A value of which a part is longer than that is not read
back at all.

A number may have been written in more digits than it needs, so that a value is read from several
byte strings. The packed form is the shortest of them.

Results:
* `Packed.Lawful`: the types whose values are read back exactly if their lengths fit, with instances
  for numbers, texts, byte strings, and the requests, replies and events of the co-processor.
* `Packed.read?_pack`: a message is read back from its packed form.
* `Packed.consumes_unpack`: what a value is read from is no shorter than its packed form.
-/

namespace AppletGateway

namespace Packed

/-- Values with byte strings, texts and lists in them. -/
class Measured (α : Type) where
  /-- The length of the longest of these in a value. -/
  longest : α → Nat

open Measured (longest)

/-- The lengths in the packed form of a value are of 64 bits. -/
def Fits {α : Type} [Measured α] (a : α) : Prop := longest a < UInt64.size

instance {α : Type} [Measured α] (a : α) : Decidable (Fits a) :=
  inferInstanceAs (Decidable (longest a < UInt64.size))

/-- To read a value takes the bytes that `size` says, of which `n` had been read before, and leaves
the bytes behind them. -/
def Consumes {α : Type} (n : Nat) (size : α → Nat) (x : Unpack α) : Prop :=
  ∀ b a rest, x b = some (a, rest) → ∃ used, b = used ++ rest ∧ size a ≤ n + used.length

/-- A packed value is read back, whatever follows it, and its packed form is the shortest that it is
read from. -/
class Lawful (α : Type) [Packed α] [Measured α] : Prop where
  unpack_pack (a : α) (rest : Bytes) :
    unpack (pack a ++ rest) = if Fits a then some (a, rest) else none
  longest_le (a : α) : longest a ≤ (pack a).length
  consumes : Consumes 0 (fun a : α => (pack a).length) unpack

variable {α β : Type}

theorem Lawful.longest_le_of [Packed α] [Measured α] [Lawful α] {a : α} {n : Nat}
    (h : (pack a).length ≤ n) : longest a ≤ n := Nat.le_trans (longest_le a) h

theorem Lawful.fits [Packed α] [Measured α] [Lawful α] {a : α}
    (h : (pack a).length < UInt64.size) : Fits a :=
  Nat.lt_of_le_of_lt (Lawful.longest_le a) h

/-- A message is read back from its packed form. -/
theorem read?_pack [Packed α] [Measured α] [Lawful α] (a : α)
    (h : (pack a).length < UInt64.size) : read? (pack a) = some a := by
  have := Lawful.unpack_pack a []
  rw [List.append_nil, if_pos (Lawful.fits h)] at this
  simp [read?, this]

/-! ## Reading one value after another -/

theorem bind_of_eq {x : Unpack α} {b rest : Bytes} {a : α} (h : x b = some (a, rest))
    (f : α → Unpack β) : (x >>= f) b = f a rest := by
  show (x b).bind (fun p => f p.1 p.2) = f a rest
  rw [h]
  rfl

theorem bind_unpack [Packed α] [Measured α] [Lawful α] (a : α) (rest : Bytes)
    (f : α → Unpack β) :
    (unpack >>= f) (pack a ++ rest) = if Fits a then f a rest else none := by
  show (unpack (pack a ++ rest)).bind (fun p => f p.1 p.2) = _
  rw [Lawful.unpack_pack]
  split <;> rfl

section Consumes

variable {n : Nat} {size : α → Nat}

theorem Consumes.bind {size' : β → Nat} {x : Unpack α} {f : α → Unpack β}
    (hx : Consumes n size x) (hf : ∀ a, Consumes (size a) size' (f a)) :
    Consumes n size' (x >>= f) := by
  intro b c rest h
  obtain ⟨⟨a, rest'⟩, ha, hc⟩ := Option.bind_eq_some_iff.mp h
  obtain ⟨used, rfl, hused⟩ := hx b a rest' ha
  obtain ⟨used', rfl, hused'⟩ := hf a rest' c rest hc
  refine ⟨used ++ used', by rw [List.append_assoc], ?_⟩
  rw [List.length_append]
  omega

theorem consumes_pure {a : α} (h : size a ≤ n) : Consumes n size (pure a : Unpack α) := by
  intro b c rest hc
  obtain ⟨rfl, rfl⟩ := Prod.mk.inj (Option.some.inj hc)
  exact ⟨[], rfl, h⟩

theorem consumes_failure : Consumes n size (failure : Unpack α) := nofun

/-- What a value is read from is no shorter than its packed form. -/
theorem consumes_unpack [Packed α] [Measured α] [Lawful α] :
    Consumes n (fun a : α => n + (pack a).length) unpack := by
  intro b a rest h
  obtain ⟨used, rfl, hused⟩ := Lawful.consumes b a rest h
  refine ⟨used, rfl, ?_⟩
  dsimp only at hused ⊢
  omega

end Consumes

/-! ## Numbers -/

/-- A number that is too large for its digits is not read back. -/
theorem read_write_of_le (rest : Bytes) : ∀ {digits n : Nat}, Varint.range digits ≤ n →
    Varint.read digits (Varint.write digits n ++ rest) = none
  | 0, _, _ => rfl
  | digits + 1, n, h => by
    have hpos : 0 < Varint.range digits := by
      clear h
      induction digits with
      | zero => exact Nat.zero_lt_one
      | succ digits ih => exact Nat.mul_pos (by decide) ih
    rw [Varint.range] at h
    have hb : (UInt8.ofNat (128 + n % 128)).toNat = 128 + n % 128 := by
      simp only [UInt8.toNat_ofNat']
      omega
    have hge : ¬ (128 + n % 128 < 128) := by omega
    have hn : ¬ n < 128 := by omega
    have hrest := read_write_of_le rest (show Varint.range digits ≤ n / 128 by omega)
    simp only [Varint.write, hn, if_false, List.cons_append, Varint.read, hb, hge, hrest,
      Option.map_none]

theorem readBelow_write {digits limit : Nat} (h : limit ≤ Varint.range (digits + 1)) (n : Nat)
    (rest : Bytes) : Varint.readBelow (digits + 1) limit (Varint.write (digits + 1) n ++ rest) =
      if n < limit then some (n, rest) else none := by
  unfold Varint.readBelow
  by_cases hn : n < Varint.range (digits + 1)
  · rw [Varint.read_write rest hn]
    by_cases hlimit : n < limit <;> simp [Option.filter, hlimit]
  · rw [read_write_of_le rest (by omega), if_neg (by omega)]
    rfl

/-- A number is read from the front of what there is. -/
theorem read_eq_some : ∀ {digits n : Nat} {b rest : Bytes},
    Varint.read digits b = some (n, rest) → ∃ used, b = used ++ rest
  | 0, _, _, _, h => by cases h
  | _ + 1, _, [], _, h => by cases h
  | digits + 1, n, x :: b, rest, h => by
    unfold Varint.read at h
    split at h
    · obtain ⟨rfl, rfl⟩ := Prod.mk.inj (Option.some.inj h)
      exact ⟨[x], rfl⟩
    · obtain ⟨⟨m, rest'⟩, hm, he⟩ := Option.map_eq_some_iff.mp h
      obtain ⟨rfl, rfl⟩ := Prod.mk.inj he
      obtain ⟨used, rfl⟩ := read_eq_some hm
      exact ⟨x :: used, rfl⟩

theorem readBelow_eq_some {digits limit n : Nat} {b rest : Bytes}
    (h : Varint.readBelow digits limit b = some (n, rest)) :
    n < limit ∧ ∃ used, b = used ++ rest ∧ (Varint.write digits n).length ≤ used.length := by
  obtain ⟨hread, hlimit⟩ := Option.filter_eq_some_iff.mp h
  obtain ⟨used, rfl⟩ := read_eq_some hread
  have hlen := Varint.length_write_le hread
  rw [List.length_append] at hlen
  exact ⟨of_decide_eq_true hlimit, used, rfl, by omega⟩

theorem consumes_readBelow (digits limit : Nat) :
    Consumes 0 (fun n => (Varint.write digits n).length) (Varint.readBelow digits limit) := by
  intro b n rest h
  obtain ⟨-, used, rfl, hused⟩ := readBelow_eq_some h
  exact ⟨used, rfl, by dsimp only; omega⟩

theorem consumes_unpackTag : Consumes 0 (fun n => (packTag n).length) unpackTag :=
  consumes_readBelow 5 _

theorem bind_unpackTag {n : Nat} (rest : Bytes) (f : Nat → Unpack β) (h : n < UInt32.size) :
    (unpackTag >>= f) (packTag n ++ rest) = f n rest :=
  bind_of_eq (by rw [unpackTag, packTag, readBelow_write (by decide), if_pos h]) f

theorem bind_unpackLength (n : Nat) (rest : Bytes) (f : Nat → Unpack β) :
    (unpackLength >>= f) (packLength n ++ rest) = if n < UInt64.size then f n rest else none := by
  show (unpackLength (packLength n ++ rest)).bind (fun p => f p.1 p.2) = _
  rw [unpackLength, packLength, readBelow_write (by decide)]
  split <;> rfl

/-- The base-128 form of a number takes at least one byte. -/
theorem length_write_pos (digits n : Nat) : 0 < (Varint.write (digits + 1) n).length := by
  unfold Varint.write
  split <;> simp

instance : Measured UInt32 where
  longest _ := 0

instance : Measured Bool where
  longest _ := 0

theorem fits_word (w : UInt32) : Fits w := show 0 < UInt64.size by decide

theorem fits_bool (b : Bool) : Fits b := show 0 < UInt64.size by decide

instance : Lawful UInt32 where
  unpack_pack w rest := by
    have hw := w.toNat_lt
    have hread : Varint.readBelow 5 UInt32.size (Varint.write 5 w.toNat ++ rest) =
        some (w.toNat, rest) := by
      rw [readBelow_write (by decide), if_pos hw]
    rw [if_pos (fits_word w)]
    show (Varint.readBelow 5 UInt32.size >>= _) (Varint.write 5 w.toNat ++ rest) = _
    rw [bind_of_eq hread]
    simp only [UInt32.ofNat_toNat]
    rfl
  longest_le _ := Nat.zero_le _
  consumes b w rest h := by
    obtain ⟨⟨n, rest'⟩, hn, hw⟩ := Option.bind_eq_some_iff.mp h
    obtain ⟨hlt, used, rfl, hused⟩ := readBelow_eq_some hn
    obtain ⟨rfl, rfl⟩ := Prod.mk.inj (Option.some.inj hw)
    refine ⟨used, rfl, ?_⟩
    show (Varint.write 5 (UInt32.ofNat n).toNat).length ≤ 0 + used.length
    rw [UInt32.toNat_ofNat_of_lt' hlt]
    omega

instance : Lawful Bool where
  unpack_pack a rest := by cases a <;> rfl
  longest_le _ := Nat.zero_le _
  consumes b a rest h := by
    delta instBool at h
    dsimp only at h
    split at h
    · obtain ⟨rfl, rfl⟩ := Prod.mk.inj (Option.some.inj h)
      exact ⟨[0], rfl, Nat.le_refl 1⟩
    · obtain ⟨rfl, rfl⟩ := Prod.mk.inj (Option.some.inj h)
      exact ⟨[1], rfl, Nat.le_refl 1⟩
    · cases h

/-! ## Byte strings, texts and lists -/

instance : Measured Bytes where
  longest b := b.length

instance : Measured String where
  longest s := (Bytes.ofText s).length

theorem length_pack_bytes (b : Bytes) :
    (pack b).length = (packLength b.length).length + b.length := List.length_append

theorem unpackBytes_append (b rest : Bytes) :
    unpackBytes b.length (b ++ rest) = some (b, rest) := by
  simp [unpackBytes]

instance : Lawful Bytes where
  unpack_pack b rest := by
    show (unpackLength >>= unpackBytes) (packLength b.length ++ b ++ rest) = _
    rw [List.append_assoc, bind_unpackLength, unpackBytes_append]
    rfl
  longest_le b := by
    show b.length ≤ _
    rw [length_pack_bytes]
    omega
  consumes := by
    refine (consumes_readBelow 10 _).bind fun n => ?_
    intro b a rest h
    unfold unpackBytes at h
    split at h
    · rename_i hle
      obtain ⟨rfl, rfl⟩ := Prod.mk.inj (Option.some.inj h)
      refine ⟨b.take n, (List.take_append_drop n b).symm, ?_⟩
      have hlen : (b.take n).length = n := List.length_take_of_le hle
      show (pack (b.take n)).length ≤ (packLength n).length + (b.take n).length
      exact Nat.le_of_eq (by rw [length_pack_bytes, hlen])
    · cases h

instance : Lawful String where
  unpack_pack s rest := by
    show ((unpack : Unpack Bytes) >>= _) (pack (Bytes.ofText s) ++ rest) = _
    rw [bind_unpack (Bytes.ofText s)]
    simp only [Bytes.toText?_ofText]
    rfl
  longest_le s := Lawful.longest_le (Bytes.ofText s)
  consumes := by
    refine (Lawful.consumes (α := Bytes)).bind fun b => ?_
    cases hb : Bytes.toText? b with
    | none => exact consumes_failure
    | some s =>
      obtain rfl := Bytes.eq_ofText_of_toText? hb
      exact consumes_pure (Nat.le_refl _)

section Lists

variable [Packed α] [Measured α] [Lawful α]

theorem unpackItems_flatMap (hfits : ∀ a : α, Fits a) (rest : Bytes) : ∀ xs done : List α,
    unpackItems unpack xs.length done (xs.flatMap pack ++ rest) =
      some (done.reverse ++ xs, rest) := by
  intro xs
  induction xs with
  | nil => intro done; simp [unpackItems]
  | cons x xs ih =>
    intro done
    rw [List.flatMap_cons, List.append_assoc, List.length_cons, unpackItems, Lawful.unpack_pack,
      if_pos (hfits x)]
    simp only
    rw [ih (x :: done)]
    simp

/-- A list is read back if its length fits and its items have no lengths of their own. -/
theorem bind_unpackList (hfits : ∀ a : α, Fits a) (xs : List α) (rest : Bytes)
    (f : List α → Unpack β) : (unpackList >>= f) (packList xs ++ rest) =
      if xs.length < UInt64.size then f xs rest else none := by
  have hitems : (unpackItems unpack xs.length [] >>= f) (xs.flatMap pack ++ rest) = f xs rest :=
    bind_of_eq (by rw [unpackItems_flatMap hfits]; rfl) f
  show ((unpackLength >>= fun n => unpackItems unpack n []) >>= f) _ = _
  rw [bind_assoc, packList, List.append_assoc, bind_unpackLength, hitems]

omit [Measured α] [Lawful α] in
theorem length_le_packList (hpos : ∀ a : α, 0 < (pack a).length) (xs : List α) :
    xs.length ≤ (packList xs).length := by
  have hitems : xs.length ≤ (xs.flatMap pack).length := by
    induction xs with
    | nil => exact Nat.le_refl 0
    | cons x xs ih =>
      have := hpos x
      rw [List.flatMap_cons, List.length_append, List.length_cons]
      omega
  rw [packList, List.length_append]
  omega

theorem unpackItems_eq_some {count : Nat} : ∀ {done xs : List α} {b rest : Bytes},
    unpackItems unpack count done b = some (xs, rest) →
      ∃ used items, b = used ++ rest ∧ xs = done.reverse ++ items ∧ items.length = count ∧
        (items.flatMap pack).length ≤ used.length := by
  induction count with
  | zero =>
    intro done xs b rest h
    obtain ⟨rfl, rfl⟩ := Prod.mk.inj (Option.some.inj h)
    exact ⟨[], [], rfl, by simp, rfl, Nat.le_refl 0⟩
  | succ count ih =>
    intro done xs b rest h
    unfold unpackItems at h
    split at h
    · cases h
    · rename_i x b' hx
      obtain ⟨used, rfl, hused⟩ := Lawful.consumes b x b' hx
      obtain ⟨used', items, rfl, rfl, rfl, hused'⟩ := ih h
      refine ⟨used ++ used', x :: items, by rw [List.append_assoc], by simp, rfl, ?_⟩
      rw [List.flatMap_cons, List.length_append, List.length_append]
      dsimp only at hused
      omega

theorem consumes_unpackList {n : Nat} :
    Consumes n (fun xs : List α => n + (packList xs).length) unpackList := by
  have hlist : Consumes 0 (fun xs : List α => (packList xs).length) unpackList := by
    refine (consumes_readBelow 10 _).bind fun count => ?_
    intro b xs rest h
    obtain ⟨used, items, rfl, rfl, rfl, hused⟩ := unpackItems_eq_some h
    refine ⟨used, rfl, ?_⟩
    show (packLength xs.length ++ xs.flatMap pack).length ≤
      (packLength xs.length).length + used.length
    rw [List.length_append]
    omega
  intro b xs rest h
  obtain ⟨used, rfl, hused⟩ := hlist b xs rest h
  refine ⟨used, rfl, ?_⟩
  dsimp only at hused ⊢
  omega

end Lists

end Packed

/-! ## Messages -/

namespace Applet

open Packed Packed.Measured

instance : Measured Source where
  longest _ := 0

theorem fits_source (s : Source) : Fits s := show 0 < UInt64.size by decide

instance : Lawful Source where
  unpack_pack s rest := by
    cases s <;>
      · delta instPackedSource
        dsimp only
        rw [bind_unpackTag _ _ (by decide), if_pos (fits_source _)]
        rfl
  longest_le _ := Nat.zero_le _
  consumes := by
    refine consumes_unpackTag.bind fun tag => ?_
    split
    · exact consumes_pure (Nat.le_refl 1)
    · exact consumes_pure (Nat.le_refl 1)
    · exact consumes_failure

instance : Measured Event where
  longest e := max (longest e.app) (longest e.data)

instance : Lawful Event where
  unpack_pack e rest := by
    delta instPackedEvent
    dsimp only
    simp only [List.append_assoc, bind_unpack, fits_source, if_true]
    simp only [Fits]
    delta instMeasuredEvent
    simp only [Nat.max_lt, ite_and]
    rfl
  longest_le e := by
    delta instPackedEvent instMeasuredEvent
    dsimp only
    simp only [List.length_append, Nat.max_le]
    exact ⟨Lawful.longest_le_of (by omega), Lawful.longest_le_of (by omega)⟩
  consumes := by
    refine consumes_unpack.bind fun app => consumes_unpack.bind fun data =>
      consumes_unpack.bind fun source => consumes_pure ?_
    delta instPackedEvent
    dsimp only
    simp only [List.length_append]
    omega

instance : Measured Request where
  longest
    | .openSession app _ | .closeSession app | .uninstall app | .startProvisioning app
    | .endProvisioning app _ _ | .receiveData app _ _ _ | .capabilities app _ _
    | .otpsStatus app _ _ | .subscribe app | .unsubscribe app => longest app
    | .install app source => max (longest app) (longest source)
    | .sendData app _ _ data | .sendAndReceive app _ _ data _ => max (longest app) (longest data)
    | .getOtp app _ token vendorData _ _ =>
      max (max (longest app) (longest token)) (longest vendorData)

instance : Lawful Request where
  unpack_pack q rest := by
    cases q <;>
      · delta instPackedRequest
        dsimp only
        simp only [List.append_assoc]
        rw [bind_unpackTag _ _ (by decide)]
        simp only [bind_unpack, fits_word, fits_bool, if_true]
        simp only [Fits]
        delta instMeasuredRequest
        simp only [Nat.max_lt, ite_and]
        rfl
  longest_le q := by
    cases q <;>
      · delta instPackedRequest instMeasuredRequest
        dsimp only
        simp only [List.length_append, Nat.max_le]
        repeat' apply And.intro
        all_goals exact Lawful.longest_le_of (by omega)
  consumes := by
    refine consumes_unpackTag.bind fun tag => ?_
    split <;> first
      | exact consumes_failure
      | repeat' refine consumes_unpack.bind fun _ => ?_
        refine consumes_pure ?_
        delta instPackedRequest
        dsimp only
        simp only [List.length_append]
        omega

instance : Measured Reply where
  longest
    | .done | .handle _ | .value _ | .failed _ => 0
    | .data d => longest d
    | .otp password token => max (longest password) (longest token)
    | .tooSmall required => required.length

instance : Lawful Reply where
  unpack_pack r rest := by
    cases r with
    | done =>
      delta instPackedReply
      dsimp only
      have hfits : Fits Reply.done := show 0 < UInt64.size by decide
      rw [bind_unpackTag _ _ (by decide), if_pos hfits]
      rfl
    | _ =>
      delta instPackedReply
      dsimp only
      simp only [List.append_assoc]
      rw [bind_unpackTag _ _ (by decide)]
      simp only [bind_unpack, bind_unpackList fits_word, fits_word, if_true]
      simp only [Fits]
      delta instMeasuredReply
      simp only [Nat.max_lt, ite_and]
      rfl
  longest_le r := by
    cases r with
    | tooSmall required =>
      delta instPackedReply instMeasuredReply
      dsimp only
      have := length_le_packList (fun w : UInt32 => length_write_pos 4 w.toNat) required
      rw [List.length_append]
      omega
    | done | handle _ | value _ | failed _ => exact Nat.zero_le _
    | data _ | otp _ _ =>
      delta instPackedReply instMeasuredReply
      dsimp only
      simp only [List.length_append, Nat.max_le]
      repeat' apply And.intro
      all_goals exact Lawful.longest_le_of (by omega)
  consumes := by
    refine consumes_unpackTag.bind fun tag => ?_
    split <;> first
      | exact consumes_failure
      | exact consumes_pure (Nat.le_refl 1)
      | repeat' first
          | refine consumes_unpack.bind fun _ => ?_
          | refine consumes_unpackList.bind fun _ => ?_
        refine consumes_pure ?_
        delta instPackedReply
        dsimp only
        simp only [List.length_append]
        omega

instance : Measured Inbound where
  longest
    | .reply r => longest r
    | .event e => longest e

instance : Lawful Inbound where
  unpack_pack i rest := by
    cases i <;>
      · delta instPackedInbound
        dsimp only
        rw [List.append_assoc, bind_unpackTag _ _ (by decide)]
        simp only [bind_unpack]
        rfl
  longest_le i := by
    cases i <;>
      · delta instPackedInbound instMeasuredInbound
        dsimp only
        rw [List.length_append]
        exact Lawful.longest_le_of (by omega)
  consumes := by
    refine consumes_unpackTag.bind fun tag => ?_
    split <;> first
      | exact consumes_failure
      | refine consumes_unpack.bind fun _ => consumes_pure ?_
        delta instPackedInbound
        dsimp only
        exact Nat.le_of_eq List.length_append

end Applet

end AppletGateway
