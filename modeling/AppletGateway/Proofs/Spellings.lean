import Mathlib.Data.List.Basic
import AppletGateway.Proofs.RoundTrips

/-!
# How a request may be spelled

Every field has one form in which it is written, and a reader takes some more: the padding of a text
or a blob may hold any bytes, an empty blob may have the length of an absent one, and a handler may
have any place in the table. It takes nothing else, and no byte may be left behind the last field.

`Spells objects k v b` says that the bytes `b` are a form of the field `v`, and `tidy` brings forms
of some fields into the one that is written. So an envelope that is read as a request differs from
the envelope of that request in nothing but what `tidy` changes, and a request is read back from its
own envelope exactly if an envelope can carry its fields.

Results:
* `Envelope.gives_readField`: a field is read out of the bytes that spell it and out of no others.
* `Request.decode_eq_ok_iff`: the same for requests.
* `Request.read_back_iff`: which requests are read back from their own envelopes.
* `Request.tidy_of_decode`: an envelope that is read as a request is, once tidied, that request's.
-/

namespace AppletGateway

namespace Envelope

/-! ## The forms of a field -/

/-- The forms of bytes with a length and padding. Absent ones are a length alone, and padding may be
any bytes. -/
inductive SpellsPadded : (content : Option Bytes) → (form : Bytes) → Prop
  | absent : SpellsPadded none (Bytes.ofWord absentMark)
  | present (b padding : Bytes) : b.length < blobLimit →
    padding.length = padded b.length - b.length →
    SpellsPadded (some b) (Bytes.ofWord (UInt32.ofNat b.length) ++ b ++ padding)

/-- The forms of a field in an envelope with the table `objects`. -/
inductive Spells (objects : List Handler) : (k : Kind) → k.Value → (form : Bytes) → Prop
  | int (i : Int32) : Spells objects .int i (Bytes.ofWord i.toUInt32)
  | word (w : UInt32) : Spells objects .word w (Bytes.ofWord w)
  | text {s : Option String} {form : Bytes} : SpellsPadded (s.map Bytes.ofText) form →
    Spells objects .text s form
  | blob {b : Option Bytes} {form : Bytes} : SpellsPadded b form →
    Spells objects .blob (b.getD []) form
  | noHandler : Spells objects .handler none (Bytes.ofWord absentMark)
  | handler {h : Handler} {index : UInt32} : index.toNat < blobLimit →
    objects[index.toNat]? = some h → Spells objects .handler (some h) (Bytes.ofWord index)

/-- The forms of fields in a row: those of the fields, one behind the other. -/
inductive SpellsAll (objects : List Handler) : (ks : List Kind) → Fields ks → (form : Bytes) → Prop
  | nil : SpellsAll objects [] () []
  | cons {k : Kind} {ks : List Kind} {v : k.Value} {vs : Fields ks} {form rest : Bytes} :
    Spells objects k v form → SpellsAll objects ks vs rest →
    SpellsAll objects (k :: ks) (v, vs) (form ++ rest)

/-- How many bytes the word in front of a field announces. -/
def Kind.announced : Kind → UInt32 → Nat
  | .text, w | .blob, w => if w = absentMark then 0 else w.toNat
  | _, _ => 0

/-- The word in front of a field as it is written: no blob is absent, and a handler is the first one
in the table. -/
def Kind.tidyWord : Kind → UInt32 → UInt32
  | .blob, w => if w = absentMark then 0 else w
  | .handler, w => if w = absentMark then absentMark else 0
  | _, w => w

/-- The bytes of fields of some kinds with zeros for padding and with the words that are written.
Bytes behind the last field, and a field of less than four bytes, stay as they are. -/
def tidy : List Kind → Bytes → Bytes
  | k :: ks, a :: b :: c :: d :: rest =>
    let w := Bytes.toWord a b c d
    let n := k.announced w
    Bytes.ofWord (k.tidyWord w) ++ rest.take n ++
      ((rest.take (padded n)).drop n).map (fun _ => 0) ++ tidy ks (rest.drop (padded n))
  | _, rest => rest

/-! ## Readings that succeed -/

/-- Started at `c`, the reading `x` gives `a` and ends at `c'`. -/
def Gives {α : Type} (x : Read α) (c : Cursor) (a : α) (c' : Cursor) : Prop :=
  Ends x c fun r t => r = .ok a ∧ t = c'

/-- The cursor that still has the bytes `b` before it. -/
def Cursor.before (b : Bytes) (c : Cursor) : Cursor := ⟨b ++ c.rest, c.objects⟩

variable {α β : Type} {c c' : Cursor}

@[simp]
theorem Cursor.before_before (a b : Bytes) (c : Cursor) :
    (c.before b).before a = c.before (a ++ b) := by
  simp [Cursor.before]

theorem gives_bind {x : Read α} {f : α → Read β} {b : β} :
    Gives (x >>= f) c b c' ↔ ∃ a d, Gives x c a d ∧ Gives (f a) d b c' := by
  rw [Gives, ends_bind]
  constructor
  · intro h
    generalize hr : (x.run c).1 = r
    rw [Ends, hr] at h
    cases r with
    | error e => cases h.1
    | ok a => exact ⟨a, _, ⟨hr, rfl⟩, h⟩
  · rintro ⟨a, _, ⟨hr, rfl⟩, h⟩
    rw [Ends, hr]
    exact h

@[simp]
theorem gives_pure {a b : α} : Gives (pure a) c b c' ↔ a = b ∧ c = c' := by
  rw [Gives, ends_pure, Except.ok.injEq]

@[simp]
theorem gives_throw {e : EnvelopeError} {a : α} : ¬ Gives (throw e) c a c' := nofun

@[simp]
theorem gives_get_bind {f : Cursor → Read β} {b : β} :
    Gives (get >>= f) c b c' ↔ Gives (f c) c b c' := Iff.rfl

theorem gives_ite {p : Prop} [Decidable p] {x y : Read α} {a : α} :
    Gives (if p then x else y) c a c' ↔ if p then Gives x c a c' else Gives y c a c' := by
  split <;> rfl

theorem gives_guard {p : Prop} [Decidable p] {e : EnvelopeError} {f : α → Read β} {x : Read β}
    {b : β} : Gives (if p then throw e >>= f else x) c b c' ↔ ¬ p ∧ Gives x c b c' := by
  rw [gives_ite]
  split <;> simp [*]

theorem gives_readBytes {n : Nat} {b : Bytes} :
    Gives (readBytes n) c b c' ↔ b.length = n ∧ c = c'.before b := by
  constructor
  · intro h
    have hends : Ends (readBytes n) c fun r t => ∀ b, r = .ok b → b.length = n ∧ c = t.before b :=
      ends_readBytes (fun _ => nofun) fun hlen b hb => by
        obtain rfl := Except.ok.inj hb
        exact ⟨List.length_take_of_le hlen, by simp [Cursor.before]⟩
    obtain ⟨hr, rfl⟩ := h
    exact hends b hr
  · rintro ⟨hn, rfl⟩
    exact ends_readBytes_append hn ⟨rfl, rfl⟩

theorem gives_readWord {w : UInt32} :
    Gives readWord c w c' ↔ c = c'.before (Bytes.ofWord w) := by
  rw [readWord, gives_bind]
  constructor
  · rintro ⟨b, d, hb, hw⟩
    obtain ⟨hlen, rfl⟩ := gives_readBytes.mp hb
    obtain ⟨a, b, c, d, rfl⟩ := List.length_eq_four.mp hlen
    obtain ⟨rfl, rfl⟩ := gives_pure.mp hw
    rw [Bytes.ofWord_toWord]
  · rintro rfl
    refine ⟨Bytes.ofWord w, c', gives_readBytes.mpr ⟨rfl, rfl⟩, ?_⟩
    rw [Bytes.ofWord]
    simp only [Bytes.toWord_ofWord]
    exact gives_pure.mpr ⟨rfl, rfl⟩

theorem gives_readInt {i : Int32} :
    Gives readInt c i c' ↔ c = c'.before (Bytes.ofWord i.toUInt32) := by
  rw [readInt, gives_bind]
  constructor
  · rintro ⟨w, d, hw, hi⟩
    obtain ⟨rfl, rfl⟩ := gives_pure.mp hi
    exact gives_readWord.mp hw
  · rintro rfl
    exact ⟨i.toUInt32, c', gives_readWord.mpr rfl, gives_pure.mpr ⟨rfl, rfl⟩⟩

theorem gives_readPadded {r : Option Bytes} :
    Gives readPadded c r c' ↔ ∃ form, SpellsPadded r form ∧ c = c'.before form := by
  rw [readPadded, gives_bind]
  constructor
  · rintro ⟨w, d, hw, h⟩
    obtain rfl := gives_readWord.mp hw
    rw [gives_ite] at h
    split at h
    · rename_i habsent
      obtain ⟨rfl, rfl⟩ := gives_pure.mp h
      rw [habsent]
      exact ⟨_, .absent, rfl⟩
    · rw [gives_guard] at h
      obtain ⟨hsign, h⟩ := h
      rw [gives_get_bind, gives_guard, gives_bind] at h
      obtain ⟨hroom, b, d', hb, h⟩ := h
      rw [gives_bind] at h
      obtain ⟨padding, d'', hpadding, h⟩ := h
      obtain ⟨rfl, rfl⟩ := gives_pure.mp h
      obtain ⟨hlen, rfl⟩ := gives_readBytes.mp hb
      obtain ⟨hpad, rfl⟩ := gives_readBytes.mp hpadding
      have hw : w = UInt32.ofNat b.length := by rw [hlen, UInt32.ofNat_toNat]
      rw [← hlen] at hpad
      refine ⟨_, .present b padding ?_ hpad, ?_⟩
      · rw [hlen]
        exact nonneg_iff.mp hsign
      · rw [← hw, Cursor.before_before, Cursor.before_before, List.append_assoc]
  · rintro ⟨_, hform, rfl⟩
    cases hform with
    | absent => exact ⟨absentMark, c', gives_readWord.mpr rfl, rfl, rfl⟩
    | present b padding hlen hpadding =>
      have hw := toNat_ofNat_of_lt hlen
      rw [List.append_assoc, ← Cursor.before_before]
      refine ⟨_, _, gives_readWord.mpr rfl, ?_⟩
      generalize UInt32.ofNat b.length = w at hw
      rw [← hw] at hlen hpadding
      rw [gives_ite, if_neg (ne_absentMark_of_toNat_lt hlen), gives_guard, gives_get_bind,
        gives_guard, gives_bind]
      refine ⟨nonneg_iff.mpr hlen, ?_, b, c'.before padding, ?_, ?_⟩
      · have hle := le_padded w.toNat
        simp only [Cursor.before, List.length_append]
        omega
      · exact gives_readBytes.mpr ⟨hw.symm, (Cursor.before_before _ _ _).symm⟩
      · rw [gives_bind]
        exact ⟨padding, c', gives_readBytes.mpr ⟨hpadding, rfl⟩, gives_pure.mpr ⟨rfl, rfl⟩⟩

theorem gives_readText {s : Option String} :
    Gives readText c s c' ↔
      ∃ form, SpellsPadded (s.map Bytes.ofText) form ∧ c = c'.before form := by
  rw [readText, gives_bind]
  constructor
  · rintro ⟨_ | b, d, hb, h⟩
    · obtain ⟨rfl, rfl⟩ := gives_pure.mp h
      exact gives_readPadded.mp hb
    · cases hs : Bytes.toText? b with
      | none => simp [hs] at h
      | some t =>
        simp only [hs, gives_pure] at h
        obtain ⟨rfl, rfl⟩ := h
        rw [Bytes.eq_ofText_of_toText? hs] at hb
        exact gives_readPadded.mp hb
  · intro h
    refine ⟨s.map Bytes.ofText, c', gives_readPadded.mpr h, ?_⟩
    cases s with
    | none => exact ⟨rfl, rfl⟩
    | some t => simp [Bytes.toText?_ofText]

theorem gives_readBlob {b : Bytes} : Gives readBlob c b c' ↔
    ∃ content form, content.getD [] = b ∧ SpellsPadded content form ∧ c = c'.before form := by
  rw [readBlob, gives_bind]
  constructor
  · rintro ⟨content, d, hcontent, h⟩
    obtain ⟨rfl, rfl⟩ := gives_pure.mp h
    obtain ⟨form, h⟩ := gives_readPadded.mp hcontent
    exact ⟨content, form, rfl, h⟩
  · rintro ⟨content, form, rfl, h⟩
    exact ⟨content, c', gives_readPadded.mpr ⟨form, h⟩, gives_pure.mpr ⟨rfl, rfl⟩⟩

theorem gives_readHandler {h : Option Handler} :
    Gives readHandler c h c' ↔ ∃ form, Spells c'.objects .handler h form ∧ c = c'.before form := by
  rw [readHandler, gives_bind]
  constructor
  · rintro ⟨w, d, hw, hr⟩
    obtain rfl := gives_readWord.mp hw
    rw [gives_ite] at hr
    split at hr
    · rename_i habsent
      obtain ⟨rfl, rfl⟩ := gives_pure.mp hr
      rw [habsent]
      exact ⟨_, .noHandler, rfl⟩
    · rw [gives_guard, gives_get_bind] at hr
      obtain ⟨hsign, hr⟩ := hr
      split at hr
      · rename_i handler hget
        obtain ⟨rfl, rfl⟩ := gives_pure.mp hr
        exact ⟨_, .handler (nonneg_iff.mp hsign) hget, rfl⟩
      · cases hr.1
  · rintro ⟨_, hform, rfl⟩
    cases hform with
    | noHandler => exact ⟨absentMark, c', gives_readWord.mpr rfl, rfl, rfl⟩
    | @handler handler index hlt hget =>
      refine ⟨index, c', gives_readWord.mpr rfl, ?_⟩
      rw [gives_ite, if_neg (ne_absentMark_of_toNat_lt hlt), gives_guard, gives_get_bind, hget]
      exact ⟨nonneg_iff.mpr hlt, rfl, rfl⟩

/-- A field is read out of the bytes that spell it and out of no others. -/
theorem gives_readField {k : Kind} {v : k.Value} :
    Gives (readField k) c v c' ↔ ∃ form, Spells c'.objects k v form ∧ c = c'.before form := by
  cases k with
  | int =>
    refine gives_readInt.trans ⟨fun h => ⟨_, .int v, h⟩, ?_⟩
    rintro ⟨_, ⟨⟩, h⟩
    exact h
  | word =>
    refine gives_readWord.trans ⟨fun h => ⟨_, .word v, h⟩, ?_⟩
    rintro ⟨_, ⟨⟩, h⟩
    exact h
  | text =>
    refine gives_readText.trans ⟨fun ⟨form, hs, h⟩ => ⟨form, .text hs, h⟩, ?_⟩
    rintro ⟨form, hs, h⟩
    cases hs with
    | text hs => exact ⟨form, hs, h⟩
  | blob =>
    refine gives_readBlob.trans ⟨?_, ?_⟩
    · rintro ⟨content, form, rfl, hs, h⟩
      exact ⟨form, .blob hs, h⟩
    · rintro ⟨form, hs, h⟩
      cases hs with
      | blob hs => exact ⟨_, form, rfl, hs, h⟩
  | handler => exact gives_readHandler

/-- The same for fields in a row. -/
theorem gives_readFields : ∀ {ks : List Kind} {vs : Fields ks} {c c' : Cursor},
    Gives (readFields ks) c vs c' ↔ ∃ form, SpellsAll c'.objects ks vs form ∧ c = c'.before form
  | [], (), c, c' => by
    rw [readFields, gives_pure]
    constructor
    · rintro ⟨-, rfl⟩
      exact ⟨[], .nil, rfl⟩
    · rintro ⟨_, ⟨⟩, h⟩
      exact ⟨rfl, h⟩
  | k :: ks, (v, vs), c, c' => by
    rw [readFields, gives_bind]
    constructor
    · rintro ⟨v', d, hv, h⟩
      rw [gives_bind] at h
      obtain ⟨vs', d', hvs, h⟩ := h
      obtain ⟨hsame, rfl⟩ := gives_pure.mp h
      obtain ⟨rfl, rfl⟩ := Prod.mk.inj hsame
      obtain ⟨rest, hrest, rfl⟩ := gives_readFields.mp hvs
      obtain ⟨form, hform, rfl⟩ := gives_readField.mp hv
      exact ⟨form ++ rest, .cons hform hrest, Cursor.before_before _ _ _⟩
    · rintro ⟨_, hform, rfl⟩
      cases hform with
      | @cons _ _ _ _ form rest hform hrest =>
        refine ⟨v, c'.before rest, ?_, ?_⟩
        · exact gives_readField.mpr ⟨form, hform, (Cursor.before_before _ _ _).symm⟩
        · rw [gives_bind]
          exact ⟨vs, c', gives_readFields.mpr ⟨rest, hrest, rfl⟩, gives_pure.mpr ⟨rfl, rfl⟩⟩

/-! ## What is spelled -/

theorem padded_mod (n : Nat) : padded n % 4 = 0 := Nat.mul_mod_left _ _

/-- The length of a form is a multiple of four. -/
theorem SpellsPadded.length_mod {content : Option Bytes} {form : Bytes}
    (h : SpellsPadded content form) : form.length % 4 = 0 := by
  cases h with
  | absent => rfl
  | present b padding hlen hpadding =>
    have hle := le_padded b.length
    have hmod := padded_mod b.length
    simp only [List.length_append, Bytes.length_ofWord]
    omega

variable {objects : List Handler}

theorem Spells.length_mod {k : Kind} {v : k.Value} {form : Bytes} (h : Spells objects k v form) :
    form.length % 4 = 0 := by
  cases h with
  | int | word | noHandler | handler => rw [Bytes.length_ofWord]
  | text h => exact h.length_mod
  | blob h => exact h.length_mod

theorem SpellsAll.length_mod {ks : List Kind} {vs : Fields ks} {form : Bytes}
    (h : SpellsAll objects ks vs form) : form.length % 4 = 0 := by
  induction h with
  | nil => rfl
  | cons hform _ ih =>
    have := hform.length_mod
    rw [List.length_append]
    omega

/-- What can be spelled can be carried by an envelope. -/
theorem Spells.fits {k : Kind} {v : k.Value} {form : Bytes} (h : Spells objects k v form) :
    Fits k v := by
  cases h with
  | int | word | noHandler | handler => trivial
  | @text s _ h =>
    cases s with
    | none => trivial
    | some s =>
      cases h with
      | present _ _ hlen => rwa [Bytes.length_ofText] at hlen
  | blob h =>
    cases h with
    | absent => exact Nat.zero_lt_succ _
    | present _ _ hlen => exact hlen

theorem SpellsAll.fitAll {ks : List Kind} {vs : Fields ks} {form : Bytes}
    (h : SpellsAll objects ks vs form) : FitAll ks vs := by
  induction h with
  | nil => trivial
  | cons hform _ ih => exact ⟨hform.fits, ih⟩

/-! ## Tidying -/

theorem tidy_ofWord (k : Kind) (ks : List Kind) (w : UInt32) (rest : Bytes) :
    tidy (k :: ks) (Bytes.ofWord w ++ rest) =
      Bytes.ofWord (k.tidyWord w) ++ rest.take (k.announced w) ++
        ((rest.take (padded (k.announced w))).drop (k.announced w)).map (fun _ => 0) ++
        tidy ks (rest.drop (padded (k.announced w))) := by
  have h := Bytes.toWord_ofWord w
  unfold Bytes.ofWord
  generalize UInt8.ofNat w.toNat = a at h ⊢
  generalize UInt8.ofNat (w.toNat / 256) = b at h ⊢
  generalize UInt8.ofNat (w.toNat / 65536) = c at h ⊢
  generalize UInt8.ofNat (w.toNat / 16777216) = d at h ⊢
  subst h
  rfl

/-- Tidying changes bytes and moves none. -/
theorem length_tidy : ∀ (ks : List Kind) (b : Bytes), (tidy ks b).length = b.length
  | [], _ | _ :: _, [] | _ :: _, [_] | _ :: _, [_, _] | _ :: _, [_, _, _] => rfl
  | k :: ks, a :: b :: c :: d :: rest => by
    have hle := le_padded (k.announced (Bytes.toWord a b c d))
    simp only [tidy, List.length_append, Bytes.length_ofWord, List.length_map, List.length_drop,
      List.length_take, length_tidy ks, List.length_cons]
    omega

/-- Tidying a field that is a word alone. -/
theorem tidy_word {k : Kind} {w : UInt32} (h : k.announced w = 0) (ks : List Kind) (rest : Bytes) :
    tidy (k :: ks) (Bytes.ofWord w ++ rest) = Bytes.ofWord (k.tidyWord w) ++ tidy ks rest := by
  rw [tidy_ofWord, h]
  simp [padded]

/-- Tidying a text or a blob puts zeros in the place of its padding. -/
theorem tidy_padded {k : Kind} {b padding : Bytes} (hlen : b.length < blobLimit)
    (hpadding : padding.length = padded b.length - b.length)
    (hk : ∀ w : UInt32, w.toNat < blobLimit → k.announced w = w.toNat ∧ k.tidyWord w = w)
    (ks : List Kind) (rest : Bytes) :
    tidy (k :: ks) (Bytes.ofWord (UInt32.ofNat b.length) ++ b ++ padding ++ rest) =
      blobBytes b ++ tidy ks rest := by
  have hw := toNat_ofNat_of_lt hlen
  have hall : (b ++ padding).length = padded b.length := by
    have := le_padded b.length
    rw [List.length_append]
    omega
  rw [← hw] at hlen
  obtain ⟨hannounced, htidy⟩ := hk _ hlen
  rw [List.append_assoc, List.append_assoc, tidy_ofWord, hannounced, htidy, hw, blobBytes,
    List.take_left' rfl, ← List.append_assoc b padding, List.take_left' hall, List.drop_left' hall,
    List.drop_left' rfl, List.map_const', hpadding]

/-- Tidying a field gives it as it is written. -/
theorem Spells.tidy {k : Kind} {v : k.Value} {form : Bytes} (h : Spells objects k v form)
    (ks : List Kind) (rest : Bytes) :
    Envelope.tidy (k :: ks) (form ++ rest) = (writeField k v {}).data ++ Envelope.tidy ks rest := by
  have hpresent : ∀ w : UInt32, w.toNat < blobLimit → w ≠ absentMark :=
    fun w hw => ne_absentMark_of_toNat_lt hw
  cases h with
  | int i => exact tidy_word rfl ks rest
  | word w => exact tidy_word rfl ks rest
  | @text s form h =>
    cases s with
    | none =>
      cases h with
      | absent => exact tidy_word rfl ks rest
    | some s =>
      cases h with
      | present _ padding hlen hpadding =>
        exact tidy_padded (k := .text) hlen hpadding
          (fun w hw => ⟨if_neg (hpresent w hw), rfl⟩) ks rest
  | blob h =>
    cases h with
    | absent => exact tidy_word rfl ks rest
    | present b padding hlen hpadding =>
      exact tidy_padded (k := .blob) hlen hpadding
        (fun w hw => ⟨if_neg (hpresent w hw), if_neg (hpresent w hw)⟩) ks rest
  | noHandler => exact tidy_word rfl ks rest
  | handler hlt _ =>
    rw [tidy_word rfl ks rest, Kind.tidyWord, if_neg (hpresent _ hlt)]
    rfl

theorem writeField_eq {k : Kind} (h : k ≠ .handler) (v : k.Value) (d : Bytes)
    (objects : List Handler) :
    writeField k v ⟨d, objects⟩ = ⟨(writeField k v ⟨d, []⟩).data, objects⟩ := by
  cases k with
  | int | word | blob => rfl
  | text => cases v <;> rfl
  | handler => exact absurd rfl h

/-- Without a handler among the fields, nothing that is written depends on the table. -/
theorem data_writeFields_eq : ∀ {ks : List Kind}, .handler ∉ ks → ∀ (vs : Fields ks) (d : Bytes)
    (objects : List Handler),
    (writeFields ks vs ⟨d, objects⟩).data = (writeFields ks vs ⟨d, []⟩).data
  | [], _, _, _, _ => rfl
  | k :: ks, h, (v, vs), d, objects => by
    obtain ⟨hk, hks⟩ := not_or.mp (mt List.mem_cons.mpr h)
    rw [writeFields, writeFields, writeField_eq (Ne.symm hk) v d objects,
      writeField_eq (Ne.symm hk) v d [], data_writeFields_eq hks]

/-- Tidying fields gives them as they are written, if there is one handler among them at most. -/
theorem SpellsAll.tidy {ks : List Kind} {vs : Fields ks} {form : Bytes}
    (h : SpellsAll objects ks vs form) (hks : ks.count .handler ≤ 1) :
    Envelope.tidy ks form = (writeFields ks vs {}).data := by
  induction h with
  | nil => rfl
  | @cons k ks v vs form rest hform _ ih =>
    have hwritten : (writeFields (k :: ks) (v, vs) {}).data =
        (writeField k v {}).data ++ (writeFields ks vs ⟨[], (writeField k v {}).objects⟩).data := by
      have := writeFields_append (writeField k v {}).data ks vs [] (writeField k v {}).objects
      rw [List.append_nil] at this
      exact congrArg Envelope.data this
    rw [hform.tidy, hwritten, ih (Nat.le_trans List.count_le_count_cons hks)]
    by_cases hk : k = .handler
    · -- The table has an entry by now, but no handler is left.
      rw [hk, List.count_cons_self] at hks
      rw [data_writeFields_eq (List.count_eq_zero.mp (by omega)) vs [] (writeField k v {}).objects]
    · rw [writeField_eq hk]

end Envelope

/-! ## Requests -/

namespace Request

open Envelope

variable {code : UInt32} {descriptor : String} {e : Envelope} {r : Request}

theorem gives_readInterface {c c' : Cursor} : Gives (readInterface descriptor) c () c' ↔
    Gives (readField .text) c (some descriptor) c' := by
  rw [readInterface, gives_bind]
  constructor
  · rintro ⟨_ | s, d, hs, h⟩
    · cases h.1
    · rw [gives_ite] at h
      split at h
      · rename_i hsame
        obtain ⟨-, rfl⟩ := gives_pure.mp h
        rw [← hsame]
        exact hs
      · cases h.1
  · intro h
    exact ⟨some descriptor, c', h, by simp⟩

/-- The end of a reading: the request is given if nothing is behind its fields. -/
theorem gives_finish {o : Opcode} {fields : Fields o.layout} {c c' : Cursor} :
    Gives (do
      let left := (← get).rest.length
      if left ≠ 0 then throw (.trailing left)
      return ofFields o fields : Read Request) c r c' ↔
      c.rest = [] ∧ ofFields o fields = r ∧ c = c' := by
  rw [gives_get_bind, gives_guard, gives_pure, Classical.not_not, List.length_eq_zero_iff]

/-- Fields and a request made of them are spelled alike. -/
theorem spellsAll_ofFields {objects : List Handler} {form : Bytes} (o : Opcode)
    (fields : Fields o.layout) : SpellsAll objects (.text :: (ofFields o fields).opcode.layout)
      (some descriptor, (ofFields o fields).fields) form ↔
        SpellsAll objects (.text :: o.layout) (some descriptor, fields) form := by
  cases o <;> rfl

/-- A request is read out of the envelopes with its call's number that spell it, and out of no
others. -/
theorem decode_eq_ok_iff : decode code descriptor e = .ok r ↔ r.opcode.code = code ∧
    SpellsAll e.objects (.text :: r.opcode.layout) (some descriptor, r.fields) e.data := by
  have hread : decode code descriptor e = .ok r ↔
      ∃ c', Gives (read code descriptor) e.cursor r c' :=
    ⟨fun h => ⟨_, h, rfl⟩, fun ⟨_, h⟩ => h.1⟩
  rw [hread]
  constructor
  · rintro ⟨c', h⟩
    rw [read, gives_bind] at h
    obtain ⟨_, d, hinterface, h⟩ := h
    cases hcode : Opcode.ofCode? code with
    | none => simp [hcode] at h
    | some o =>
      rw [hcode] at h
      obtain ⟨fields, d', hfields, h⟩ := gives_bind.mp h
      obtain ⟨hnil, rfl, rfl⟩ := gives_finish.mp h
      have hall : Gives (readFields (.text :: o.layout)) e.cursor (some descriptor, fields) d' :=
        gives_bind.mpr ⟨some descriptor, d, gives_readInterface.mp hinterface,
          gives_bind.mpr ⟨fields, d', hfields, rfl, rfl⟩⟩
      obtain ⟨form, hform, hcursor⟩ := gives_readFields.mp hall
      obtain ⟨hdata, hobjects⟩ := Cursor.mk.inj hcursor
      rw [hnil, List.append_nil] at hdata
      rw [spellsAll_ofFields, opcode_ofFields, hdata, hobjects]
      exact ⟨Opcode.code_of_ofCode? hcode, hform⟩
  · rintro ⟨rfl, h⟩
    have hall : Gives (readFields (.text :: r.opcode.layout)) e.cursor
        (some descriptor, r.fields) ⟨[], e.objects⟩ :=
      gives_readFields.mpr ⟨e.data, h, by simp [Cursor.before, cursor]⟩
    obtain ⟨t, d, ht, hrest⟩ := gives_bind.mp hall
    obtain ⟨fields, d', hfields, hend⟩ := gives_bind.mp hrest
    obtain ⟨hsame, rfl⟩ := gives_pure.mp hend
    obtain ⟨rfl, rfl⟩ := Prod.mk.inj hsame
    refine ⟨⟨[], e.objects⟩, ?_⟩
    rw [read, gives_bind, Opcode.ofCode?_code]
    refine ⟨(), d, gives_readInterface.mpr ht, gives_bind.mpr ⟨r.fields, _, hfields, ?_⟩⟩
    exact gives_finish.mpr ⟨rfl, ofFields_fields r, rfl⟩

/-- No call takes more than one handler. -/
theorem count_handler_le (o : Opcode) :
    (Kind.text :: o.layout).count .handler ≤ 1 := by
  cases o <;> decide

/-- For every request and every descriptor: the request is read back from its own envelope, with the
very same handler, exactly if the descriptor and all its texts and blobs are shorter than 2 GiB. -/
theorem read_back_iff (r : Request) (descriptor : String) :
    decode r.opcode.code descriptor (r.encode descriptor) = .ok r ↔
      descriptor.utf8ByteSize < blobLimit ∧ FitAll r.opcode.layout r.fields := by
  constructor
  · intro h
    exact (decode_eq_ok_iff.mp h).2.fitAll
  · rintro ⟨hdescriptor, hfit⟩
    exact decode_encode hdescriptor hfit

/-- Whatever is read as a request is one for the call with the number, and its bytes are, once
tidied, those of the request's own envelope: a multiple of four of them, and none left over. -/
theorem tidy_of_decode (h : decode code descriptor e = .ok r) :
    r.opcode.code = code ∧ e.data.length % 4 = 0 ∧
      tidy (.text :: r.opcode.layout) e.data = (r.encode descriptor).data ∧
      e.data.length = (r.encode descriptor).data.length := by
  obtain ⟨hcode, hform⟩ := decode_eq_ok_iff.mp h
  have htidy : tidy (.text :: r.opcode.layout) e.data = (r.encode descriptor).data :=
    hform.tidy (count_handler_le r.opcode)
  refine ⟨hcode, hform.length_mod, htidy, ?_⟩
  rw [← htidy, length_tidy]

/-- An envelope with junk for padding that names the second of two handlers, and one with a token
that is marked as absent. -/
theorem tidy_of_decode_junk :
    let start : Envelope := ⟨[1, 0, 0, 0, 105, 9, 9, 9, 2, 0, 0, 0, 97, 98, 7, 7, 1, 0, 0, 0],
      [.own "x", .own "y"]⟩
    let query : Envelope := ⟨[1, 0, 0, 0, 105, 9, 9, 9, 255, 255, 255, 255, 5, 0, 0, 0,
      255, 255, 255, 255, 1, 0, 0, 0, 3, 8, 8, 8, 6, 0, 0, 0, 0, 0, 0, 0], []⟩
    decode 23 "i" start = .ok (.startInstance (some "ab") (some (.own "y"))) ∧
      tidy [.text, .text, .handler] start.data =
        ((startInstance (some "ab") (some (.own "y"))).encode "i").data ∧
      decode 15 "i" query = .ok (.getOtp none 5 [] [3] 6 0) ∧
      tidy [.text, .text, .word, .blob, .blob, .word, .word] query.data =
        ((getOtp none 5 [] [3] 6 0).encode "i").data := by
  intro start query
  have hstart : decode 23 "i" start = .ok (.startInstance (some "ab") (some (.own "y"))) :=
    eq_ok_of_toOption (by decide +kernel)
  have hquery : decode 15 "i" query = .ok (.getOtp none 5 [] [3] 6 0) :=
    eq_ok_of_toOption (by decide +kernel)
  exact ⟨hstart, (tidy_of_decode hstart).2.2.1, hquery, (tidy_of_decode hquery).2.2.1⟩

end Request

end AppletGateway
