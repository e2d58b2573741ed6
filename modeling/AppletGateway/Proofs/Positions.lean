import AppletGateway.Proofs.Spellings

/-!
# Where a reader stands

A reader goes through an envelope field by field, and a field that cannot be read does not stop it.
Whatever the bytes and the handlers are, it always stands at a multiple of four bytes within the
data, and it never goes back.

The relations `PaddedAt` and `FieldAt` say what a reading at a position gives and where it ends, in
terms of the bytes of the envelope alone: a field for which not even four bytes are left does not
move the reader, a bad length or index, or a length that is too long, is passed by, and so is a
whole text that is not UTF-8.

Results:
* `Envelope.fieldAt_readField`: every reading at a position ends as `FieldAt` says.
* `Envelope.FieldAt.bounds`: where it ends.
* `Envelope.walks_readings`: every sequence of readings, failed ones among them.
-/

namespace AppletGateway

namespace Envelope

variable {e : Envelope} {p q : Nat}

/-! ## Readings at a position -/

/-- The reader `p` bytes behind the start of an envelope. -/
def cursorAt (e : Envelope) (p : Nat) : Cursor := ⟨e.data.drop p, e.objects⟩

/-- The bytes of an envelope from the position `p` on, `n` of them if there are as many. -/
def bytesAt (e : Envelope) (p n : Nat) : Bytes := (e.data.drop p).take n

/-- The word `w` is at the position `p`. -/
def WordAt (e : Envelope) (p : Nat) (w : UInt32) : Prop := e.bytesAt p 4 = Bytes.ofWord w

/-- What is read at `p` of a length with its bytes and padding, if there is a length, and where the
reading ends. -/
inductive PaddedAt (e : Envelope) (p : Nat) : Except EnvelopeError (Option Bytes) → Nat → Prop
  | absent : WordAt e p absentMark → PaddedAt e p (.ok none) (p + 4)
  | badLength {w : UInt32} : WordAt e p w → w ≠ absentMark → w.toInt32 < 0 →
    PaddedAt e p (.error (.badLength w.toInt32)) (p + 4)
  | tooLong {w : UInt32} : WordAt e p w → ¬ w.toInt32 < 0 →
    e.data.length < p + 4 + padded w.toNat → PaddedAt e p (.error .truncated) (p + 4)
  | present {w : UInt32} : WordAt e p w → ¬ w.toInt32 < 0 →
    p + 4 + padded w.toNat ≤ e.data.length →
    PaddedAt e p (.ok (some (e.bytesAt (p + 4) w.toNat))) (p + 4 + padded w.toNat)

/-- What is read at `p` of a field, and where the reading ends. -/
inductive FieldAt (e : Envelope) (p : Nat) : (k : Kind) → Except EnvelopeError k.Value → Nat → Prop
  | short {k : Kind} : e.data.length < p + 4 → FieldAt e p k (.error .truncated) p
  | int {w : UInt32} : WordAt e p w → FieldAt e p .int (.ok w.toInt32) (p + 4)
  | word {w : UInt32} : WordAt e p w → FieldAt e p .word (.ok w) (p + 4)
  | badBytes {k : Kind} {err : EnvelopeError} {q : Nat} : k = .text ∨ k = .blob →
    PaddedAt e p (.error err) q → FieldAt e p k (.error err) q
  | blob {b : Option Bytes} {q : Nat} : PaddedAt e p (.ok b) q →
    FieldAt e p .blob (.ok (b.getD [])) q
  | text {s : Option String} {q : Nat} : PaddedAt e p (.ok (s.map Bytes.ofText)) q →
    FieldAt e p .text (.ok s) q
  | badText {b : Bytes} {q : Nat} : PaddedAt e p (.ok (some b)) q → Bytes.toText? b = none →
    FieldAt e p .text (.error .invalidText) q
  | noHandler : WordAt e p absentMark → FieldAt e p .handler (.ok none) (p + 4)
  | handler {w : UInt32} {h : Handler} : WordAt e p w → ¬ w.toInt32 < 0 →
    e.objects[w.toNat]? = some h → FieldAt e p .handler (.ok (some h)) (p + 4)
  | badIndex {w : UInt32} : WordAt e p w → w ≠ absentMark →
    w.toInt32 < 0 ∨ e.objects[w.toNat]? = none →
    FieldAt e p .handler (.error (.badObjectIndex w.toInt32)) (p + 4)

/-! ## Where a reading ends -/

theorem WordAt.le {w : UInt32} (h : WordAt e p w) : p + 4 ≤ e.data.length := by
  have hlen := congrArg List.length h
  rw [bytesAt, List.length_take, List.length_drop, Bytes.length_ofWord] at hlen
  omega

/-- A reading from a multiple of four within the data ends at such a place, and not before where it
began. -/
theorem PaddedAt.bounds {r : Except EnvelopeError (Option Bytes)} (h : PaddedAt e p r q)
    (hmod : p % 4 = 0) : p ≤ q ∧ q ≤ e.data.length ∧ q % 4 = 0 := by
  cases h with
  | absent hword | badLength hword | tooLong hword =>
    have hle := hword.le
    omega
  | @present w _ _ hle =>
    have hpadded := padded_mod w.toNat
    omega

theorem FieldAt.bounds {k : Kind} {r : Except EnvelopeError k.Value} (h : FieldAt e p k r q)
    (hle : p ≤ e.data.length) (hmod : p % 4 = 0) : p ≤ q ∧ q ≤ e.data.length ∧ q % 4 = 0 := by
  cases h with
  | short => exact ⟨Nat.le_refl p, hle, hmod⟩
  | int hword | word hword | noHandler hword | handler hword | badIndex hword =>
    have hle := hword.le
    omega
  | badBytes _ h | blob h | text h | badText h => exact h.bounds hmod

/-! ## The readings -/

/-- Reading the word at a position goes past it, and fails if less than four bytes are left. -/
theorem ends_readWord_at {Q : Except EnvelopeError UInt32 → Cursor → Prop}
    (hshort : e.data.length < p + 4 → Q (.error .truncated) (e.cursorAt p))
    (hword : ∀ w, WordAt e p w → Q (.ok w) (e.cursorAt (p + 4))) :
    Ends readWord (e.cursorAt p) Q := by
  rw [readWord, ends_bind]
  refine ends_readBytes (fun hlt => ?_) fun hle => ?_
  · rw [cursorAt, List.length_drop] at hlt
    exact hshort (by omega)
  · obtain ⟨a, b, c, d, hbytes⟩ := List.length_eq_four.mp (List.length_take_of_le hle)
    have hcursor : (⟨(e.cursorAt p).rest.drop 4, e.objects⟩ : Cursor) = e.cursorAt (p + 4) := by
      simp [cursorAt]
    rw [andThen_ok, hbytes]
    refine (congrArg (Q (.ok (Bytes.toWord a b c d))) hcursor).mpr (hword _ ?_)
    rw [WordAt, Bytes.ofWord_toWord]
    exact hbytes

/-- Reading bytes that are there gives them and goes past them. -/
theorem ends_readBytes_at {n : Nat} {Q : Except EnvelopeError Bytes → Cursor → Prop}
    (hle : p + n ≤ e.data.length) (h : Q (.ok (e.bytesAt p n)) (e.cursorAt (p + n))) :
    Ends (readBytes n) (e.cursorAt p) Q := by
  refine ends_readBytes (fun hlt => ?_) fun _ => ?_
  · rw [cursorAt, List.length_drop] at hlt
    omega
  · have hcursor : (⟨(e.cursorAt p).rest.drop n, e.objects⟩ : Cursor) = e.cursorAt (p + n) := by
      simp [cursorAt]
    exact (congrArg (Q (.ok (e.bytesAt p n))) hcursor).mpr h

theorem paddedAt_readPadded : Ends readPadded (e.cursorAt p) fun r c =>
    (e.data.length < p + 4 ∧ r = .error .truncated ∧ c = e.cursorAt p) ∨
      ∃ q, PaddedAt e p r q ∧ c = e.cursorAt q := by
  rw [readPadded, ends_bind]
  refine ends_readWord_at (fun hshort => .inl ⟨hshort, rfl, rfl⟩) fun w hw => ?_
  rw [andThen_ok, ends_ite]
  split
  · rename_i habsent
    exact .inr ⟨p + 4, .absent (habsent ▸ hw), rfl⟩
  · rename_i hpresent
    simp only [ends_bind, ends_ite, ends_get, andThen_ok]
    split
    · rename_i hsign
      exact .inr ⟨p + 4, .badLength hw hpresent hsign, rfl⟩
    · rename_i hsign
      have hroom := hw.le
      have hleft : (e.cursorAt (p + 4)).rest.length = e.data.length - (p + 4) := List.length_drop
      rw [hleft]
      split
      · exact .inr ⟨p + 4, .tooLong hw hsign (by omega), rfl⟩
      · -- The bytes and the padding are read apart, and end at the padded length together.
        have hpadded := le_padded w.toNat
        refine ends_readBytes_at (by omega) ?_
        simp only [andThen_ok, ends_bind]
        refine ends_readBytes_at (by omega) (.inr ⟨_, .present hw hsign (by omega), ?_⟩)
        exact congrArg e.cursorAt (by omega)

/-- Every reading at a position ends as `FieldAt` says. -/
theorem fieldAt_readField (k : Kind) : Ends (readField k) (e.cursorAt p) fun r c =>
    ∃ q, FieldAt e p k r q ∧ c = e.cursorAt q := by
  cases k with
  | int =>
    show Ends readInt _ _
    rw [readInt, ends_bind]
    exact ends_readWord_at (fun hshort => ⟨p, .short hshort, rfl⟩)
      fun w hw => ⟨p + 4, .int hw, rfl⟩
  | word =>
    exact ends_readWord_at (fun hshort => ⟨p, .short hshort, rfl⟩)
      fun w hw => ⟨p + 4, .word hw, rfl⟩
  | text =>
    show Ends readText _ _
    rw [readText, ends_bind]
    refine paddedAt_readPadded.mono fun r c h => ?_
    rcases h with ⟨hshort, rfl, rfl⟩ | ⟨q, h, rfl⟩
    · exact ⟨p, .short hshort, rfl⟩
    · rcases r with err | (_ | b)
      · exact ⟨q, .badBytes (.inl rfl) h, rfl⟩
      · exact ⟨q, .text h, rfl⟩
      · cases hs : Bytes.toText? b with
        | none =>
          simp only [andThen_ok, hs]
          exact ⟨q, .badText h hs, rfl⟩
        | some s =>
          simp only [andThen_ok, hs]
          rw [Bytes.eq_ofText_of_toText? hs] at h
          exact ⟨q, .text h, rfl⟩
  | blob =>
    show Ends readBlob _ _
    rw [readBlob, ends_bind]
    refine paddedAt_readPadded.mono fun r c h => ?_
    rcases h with ⟨hshort, rfl, rfl⟩ | ⟨q, h, rfl⟩
    · exact ⟨p, .short hshort, rfl⟩
    · cases r with
      | error err => exact ⟨q, .badBytes (.inr rfl) h, rfl⟩
      | ok b => exact ⟨q, .blob h, rfl⟩
  | handler =>
    show Ends readHandler _ _
    rw [readHandler, ends_bind]
    refine ends_readWord_at (fun hshort => ⟨p, .short hshort, rfl⟩) fun w hw => ?_
    rw [andThen_ok, ends_ite]
    split
    · rename_i habsent
      exact ⟨p + 4, .noHandler (habsent ▸ hw), rfl⟩
    · rename_i hpresent
      simp only [ends_bind, ends_ite, ends_get, andThen_ok]
      split
      · rename_i hsign
        exact ⟨p + 4, .badIndex hw hpresent (.inl hsign), rfl⟩
      · rename_i hsign
        have htable : (e.cursorAt (p + 4)).objects = e.objects := rfl
        rw [htable]
        cases hget : e.objects[w.toNat]? with
        | none => exact ⟨p + 4, .badIndex hw hpresent (.inr hget), rfl⟩
        | some h => exact ⟨p + 4, .handler hw hsign hget, rfl⟩

/-! ## Readings in a row -/

/-- One of several readings: what it gives and where it leaves the reader. -/
structure Reading where
  kind : Kind
  result : Except EnvelopeError kind.Value
  cursor : Cursor

/-- The readings of fields of some kinds, each from where the one before ended, whether it failed or
not. -/
def readings : List Kind → Cursor → List Reading
  | [], _ => []
  | k :: ks, c =>
    let (r, c') := (readField k).run c
    ⟨k, r, c'⟩ :: readings ks c'

/-- Some readings go through the envelope from the position `p` on: each one gives what is there and
goes on to a multiple of four within the data, or stays. -/
inductive Walks (e : Envelope) : (p : Nat) → List Reading → Prop
  | done {p : Nat} : Walks e p []
  | read {p q : Nat} {k : Kind} {r : Except EnvelopeError k.Value} {rest : List Reading} :
    FieldAt e p k r q → p ≤ q → q ≤ e.data.length → q % 4 = 0 → Walks e q rest →
    Walks e p (⟨k, r, e.cursorAt q⟩ :: rest)

theorem walks_readings_at (hle : p ≤ e.data.length) (hmod : p % 4 = 0) (ks : List Kind) :
    Walks e p (readings ks (e.cursorAt p)) := by
  induction ks generalizing p with
  | nil => exact .done
  | cons k ks ih =>
    obtain ⟨q, hfield, hcursor⟩ := fieldAt_readField (e := e) (p := p) k
    obtain ⟨hge, hle, hmod⟩ := hfield.bounds hle hmod
    have hstep : readings (k :: ks) (e.cursorAt p) =
        ⟨k, ((readField k).run (e.cursorAt p)).1, e.cursorAt q⟩ :: readings ks (e.cursorAt q) := by
      rw [← hcursor]
      rfl
    rw [hstep]
    exact .read hfield hge hle hmod (ih hle hmod)

/-- For all bytes and handlers, and every sequence of readings from the start on: each reading ends
as `FieldAt` says, at a multiple of four that is within the data and not before where it began. -/
theorem walks_readings (e : Envelope) (ks : List Kind) : Walks e 0 (readings ks e.cursor) :=
  walks_readings_at (Nat.zero_le _) rfl ks

/-- A negative length, a text that is not UTF-8, a length that is too long, and an integer. -/
example : (readings [.blob, .text, .blob, .int] ⟨[251, 255, 255, 255, 2, 0, 0, 0, 255, 254, 0, 0,
    100, 0, 0, 0, 7, 0, 0, 0], []⟩).map (·.cursor.rest.length) = [16, 8, 4, 0] := by
  decide +kernel

end Envelope

end AppletGateway
