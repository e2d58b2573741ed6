import AppletGateway.Proofs.Spellings

/-!
# Fields in any number

Texts, blobs and handlers in any order and number, written into an empty envelope. Every field ends
at a multiple of four bytes. Reading fields of the same kinds gives the values back, with the very
same handlers, and leaves nothing behind.

An index in the table of handlers has as many bits as a length has. So an envelope has a limit to
its handlers as it has one to the bytes of a text, and beyond that limit nothing is read back: the
fields that come back are exactly those within the limits.

Results:
* `Envelope.writeFields_eq`: what is appended to an envelope, and the table of its handlers.
* `Envelope.spellsAll_writeFields_iff`: the fields whose written form is a form of them.
* `Envelope.fields_read_back_iff`: the fields that are read back.
* `Envelope.handlers_beyond_limit_lost`: a list of handlers that is not.
-/

namespace AppletGateway

theorem Bytes.ofWord_inj {v w : UInt32} (h : ofWord v = ofWord w) : v = w := by
  simp only [ofWord, List.cons.injEq, and_true] at h
  obtain ⟨ha, hb, hc, hd⟩ := h
  rw [← toWord_ofWord v, ha, hb, hc, hd, toWord_ofWord]

namespace Envelope

/-! ## Writing -/

/-- The handler that a field puts into the table, if there is one. -/
def Kind.handlers : (k : Kind) → k.Value → List Handler
  | .handler, h => h.toList
  | .int, _ | .word, _ | .text, _ | .blob, _ => []

/-- The handlers that fields put into the table, in order. One that is in several fields is there as
often. -/
def handlers : (ks : List Kind) → Fields ks → List Handler
  | [], _ => []
  | k :: ks, (v, vs) => k.handlers v ++ handlers ks vs

/-- The envelopes while fields are appended to `e`: `e`, and the one after every field. -/
def stages : (ks : List Kind) → Fields ks → (e : Envelope) → List Envelope
  | [], _, e => [e]
  | k :: ks, (v, vs), e => e :: stages ks vs (e.writeField k v)

/-- The last of them has all the fields. -/
theorem getLast?_stages : ∀ (ks : List Kind) (vs : Fields ks) (e : Envelope),
    (stages ks vs e).getLast? = some (writeFields ks vs e)
  | [], _, _ => rfl
  | k :: ks, (v, vs), e => by
    have ih := getLast?_stages ks vs (e.writeField k v)
    rw [stages, List.getLast?_cons, ih]
    rfl

theorem writeField_eq_append (k : Kind) (v : k.Value) (e : Envelope) : e.writeField k v =
    ⟨e.data ++ (writeField k v ⟨[], e.objects⟩).data, e.objects ++ k.handlers v⟩ := by
  have happend := writeField_append e.data [] e.objects k v
  rw [List.append_nil] at happend
  rw [happend, mk.injEq]
  refine ⟨rfl, ?_⟩
  cases k with
  | int | word | blob => exact (List.append_nil _).symm
  | text => cases v <;> exact (List.append_nil _).symm
  | handler => cases v with
    | none => exact (List.append_nil _).symm
    | some h => rfl

/-- Fields are appended to the bytes, and their handlers to the table. -/
theorem writeFields_eq : ∀ (ks : List Kind) (vs : Fields ks) (e : Envelope), writeFields ks vs e =
    ⟨e.data ++ (writeFields ks vs ⟨[], e.objects⟩).data, e.objects ++ handlers ks vs⟩
  | [], _, e => by simp [writeFields, handlers]
  | k :: ks, (v, vs), e => by
    rw [writeFields, writeFields_eq ks vs (e.writeField k v), writeField_eq_append k v e,
      writeFields, writeFields_eq ks vs (writeField k v ⟨[], e.objects⟩),
      writeField_eq_append k v ⟨[], e.objects⟩]
    simp [handlers]

/-- The bytes of a field in front of those of the fields behind it. -/
theorem data_writeFields_cons {k : Kind} {ks : List Kind} (v : k.Value) (vs : Fields ks)
    (objects : List Handler) : (writeFields (k :: ks) (v, vs) ⟨[], objects⟩).data =
      (writeField k v ⟨[], objects⟩).data ++
        (writeFields ks vs ⟨[], objects ++ k.handlers v⟩).data := by
  rw [writeFields, writeFields_eq, writeField_eq_append]

theorem length_blobBytes (b : Bytes) : (blobBytes b).length = 4 + padded b.length := by
  have hle := le_padded b.length
  simp only [blobBytes, List.length_append, Bytes.length_ofWord, List.length_replicate]
  omega

/-- A field takes a multiple of four bytes. -/
theorem length_writeField_mod (k : Kind) (v : k.Value) (objects : List Handler) :
    (writeField k v ⟨[], objects⟩).data.length % 4 = 0 := by
  have hword (w : UInt32) : (Bytes.ofWord w).length % 4 = 0 := by rw [Bytes.length_ofWord]
  have hblob (b : Bytes) : (blobBytes b).length % 4 = 0 := by
    rw [length_blobBytes, Nat.add_mod, padded_mod]
  cases k with
  | int => exact hword v.toUInt32
  | word => exact hword v
  | text => cases v with
    | none => exact hword absentMark
    | some s => exact hblob (Bytes.ofText s)
  | blob => exact hblob v
  | handler => cases v <;> exact hword _

/-- While fields are appended, the length stays a multiple of four. -/
theorem length_mod_of_mem_stages : ∀ {ks : List Kind} {vs : Fields ks} {e e' : Envelope},
    e.data.length % 4 = 0 → e' ∈ stages ks vs e → e'.data.length % 4 = 0
  | [], _, e, e', he, hmem => by
    obtain rfl := List.mem_singleton.mp hmem
    exact he
  | k :: ks, (v, vs), e, e', he, hmem => by
    rcases List.mem_cons.mp hmem with rfl | hmem
    · exact he
    · refine length_mod_of_mem_stages ?_ hmem
      have hfield := length_writeField_mod k v e.objects
      rw [writeField_eq_append, List.length_append]
      omega

/-! ## What is written is a form -/

variable {all : List Handler}

/-- A form is as long as what is written. -/
theorem Spells.length_eq {k : Kind} {v : k.Value} {form : Bytes} (h : Spells all k v form)
    (objects : List Handler) : form.length = (writeField k v ⟨[], objects⟩).data.length := by
  have hblob {b : Bytes} (h : SpellsPadded (some b) form) : form.length = (blobBytes b).length := by
    cases h with
    | present _ padding _ hpadding =>
      have hle := le_padded b.length
      rw [length_blobBytes]
      simp only [List.length_append, Bytes.length_ofWord]
      omega
  cases h with
  | int | word | noHandler | handler => rfl
  | @text s _ h => cases s with
    | none =>
      cases h with
      | absent => rfl
    | some s => exact hblob h
  | @blob b _ h => cases b with
    | none =>
      cases h with
      | absent => rfl
    | some b => exact hblob h

theorem spellsPadded_blobBytes {b : Bytes} (h : b.length < blobLimit) :
    SpellsPadded (some b) (blobBytes b) := .present b _ h List.length_replicate

/-- The place behind a table within the limit can be named if the table may still grow. -/
theorem spells_index_iff {objects : List Handler} {h : Handler} (hroom : objects.length ≤ blobLimit)
    (hall : objects ++ [h] <+: all) :
    Spells all .handler (some h) (Bytes.ofWord (UInt32.ofNat objects.length)) ↔
      objects.length < blobLimit := by
  constructor
  · intro hform
    generalize hw : Bytes.ofWord (UInt32.ofNat objects.length) = form at hform
    cases hform with
    | @handler _ index hlt _ =>
      obtain rfl := Bytes.ofWord_inj hw
      rw [UInt32.toNat_ofNat'] at hlt
      unfold blobLimit at hlt hroom ⊢
      omega
  · intro hlt
    have hindex := toNat_ofNat_of_lt hlt
    refine .handler (by rwa [hindex]) ?_
    obtain ⟨rest, rfl⟩ := hall
    simp [hindex]

/-- What is written for a field is a form of it exactly if the field fits and its handler has a
place that can be named. -/
theorem spells_writeField_iff {k : Kind} {v : k.Value} {objects : List Handler}
    (hroom : objects.length ≤ blobLimit) (hall : objects ++ k.handlers v <+: all) :
    Spells all k v (writeField k v ⟨[], objects⟩).data ↔
      Fits k v ∧ objects.length + (k.handlers v).length ≤ blobLimit := by
  cases k with
  | handler => cases v with
    | none => exact iff_of_true .noHandler ⟨trivial, hroom⟩
    | some h => exact (spells_index_iff hroom hall).trans (true_and _).symm.to_iff
  | int => exact iff_of_true (.int v) ⟨trivial, hroom⟩
  | word => exact iff_of_true (.word v) ⟨trivial, hroom⟩
  | text =>
    refine ⟨fun h => ⟨h.fits, hroom⟩, fun ⟨hfits, _⟩ => .text ?_⟩
    cases v with
    | none => exact .absent
    | some s => exact spellsPadded_blobBytes (by rwa [Bytes.length_ofText])
  | blob =>
    exact ⟨fun h => ⟨h.fits, hroom⟩, fun ⟨hfits, _⟩ => .blob (spellsPadded_blobBytes hfits)⟩

/-- The same for fields in a row. -/
theorem spellsAll_writeFields_iff : ∀ {ks : List Kind} {vs : Fields ks} {objects : List Handler},
    objects.length ≤ blobLimit → objects ++ handlers ks vs <+: all →
      (SpellsAll all ks vs (writeFields ks vs ⟨[], objects⟩).data ↔
        FitAll ks vs ∧ objects.length + (handlers ks vs).length ≤ blobLimit)
  | [], (), objects, hroom, _ => iff_of_true .nil ⟨trivial, hroom⟩
  | k :: ks, (v, vs), objects, hroom, hall => by
    rw [handlers, ← List.append_assoc] at hall
    have hfield := spells_writeField_iff hroom ((List.prefix_append _ _).trans hall)
    rw [data_writeFields_cons, handlers, List.length_append, FitAll]
    constructor
    · intro h
      generalize hdata : (writeField k v ⟨[], objects⟩).data ++ _ = data at h
      cases h with
      | cons hform hrest =>
        -- The first form has the length of the first field, so it is what was written for it.
        obtain ⟨rfl, rfl⟩ := List.append_inj hdata (hform.length_eq objects).symm
        obtain ⟨hfits, hlen⟩ := hfield.mp hform
        rw [← List.length_append] at hlen
        obtain ⟨hrest, hlen⟩ := (spellsAll_writeFields_iff hlen hall).mp hrest
        rw [List.length_append] at hlen
        exact ⟨⟨hfits, hrest⟩, by omega⟩
    · rintro ⟨⟨hfits, hrest⟩, hlen⟩
      have hnext : (objects ++ k.handlers v).length ≤ blobLimit := by
        rw [List.length_append]
        omega
      refine .cons (hfield.mpr ⟨hfits, by omega⟩)
        ((spellsAll_writeFields_iff hnext hall).mpr ⟨hrest, ?_⟩)
      rw [List.length_append]
      omega

/-! ## Reading back -/

/-- Fields that are written into an empty envelope are read back, and nothing is left behind,
exactly if every text and blob is shorter than 2 GiB and there are no more handlers than an index
can tell apart. -/
theorem gives_writeFields_iff (ks : List Kind) (vs : Fields ks) :
    Gives (readFields ks) (writeFields ks vs {}).cursor vs ⟨[], handlers ks vs⟩ ↔
      FitAll ks vs ∧ (handlers ks vs).length ≤ blobLimit := by
  have hforms : SpellsAll (handlers ks vs) ks vs (writeFields ks vs {}).data ↔
      FitAll ks vs ∧ (handlers ks vs).length ≤ blobLimit := by
    have hempty : ([] : List Handler).length ≤ blobLimit := Nat.zero_le _
    refine (spellsAll_writeFields_iff hempty List.prefix_rfl).trans ?_
    rw [List.length_nil, Nat.zero_add]
  have hcursor : (writeFields ks vs {}).cursor = ⟨(writeFields ks vs {}).data, handlers ks vs⟩ := by
    rw [cursor, writeFields_eq ks vs {}]
    rfl
  rw [← hforms, gives_readFields, hcursor]
  constructor
  · rintro ⟨form, hform, h⟩
    rw [Cursor.before, List.append_nil] at h
    rwa [(Cursor.mk.inj h).1]
  · intro h
    exact ⟨_, h, by rw [Cursor.before, List.append_nil]⟩

/-- For every list of fields, written in order into an empty envelope: its length is a multiple of
four after each of them. Reading fields of the same kinds gives the same values and leaves nothing
behind, exactly if every text and blob is shorter than 2 GiB and there are no more handlers than an
index can tell apart. -/
theorem fields_read_back_iff (ks : List Kind) (vs : Fields ks) :
    (∀ e ∈ stages ks vs {}, e.data.length % 4 = 0) ∧
      (Gives (readFields ks) (writeFields ks vs {}).cursor vs ⟨[], handlers ks vs⟩ ↔
        FitAll ks vs ∧ (handlers ks vs).length ≤ blobLimit) :=
  ⟨fun _ he => length_mod_of_mem_stages rfl he, gives_writeFields_iff ks vs⟩

/-! ## Too many handlers -/

/-- The same field `n` times. -/
def repeated (k : Kind) (v : k.Value) : (n : Nat) → Fields (List.replicate n k)
  | 0 => ()
  | n + 1 => (v, repeated k v n)

theorem fitAll_repeated {k : Kind} {v : k.Value} (h : Fits k v) :
    ∀ n, FitAll (List.replicate n k) (repeated k v n)
  | 0 => trivial
  | n + 1 => ⟨h, fitAll_repeated h n⟩

theorem handlers_repeated (h : Handler) :
    ∀ n, handlers (List.replicate n .handler) (repeated .handler (some h) n) = List.replicate n h
  | 0 => rfl
  | n + 1 => congrArg (h :: ·) (handlers_repeated h n)

/-- One handler more than an index can tell apart: no field is too long, and yet they are not read
back. -/
theorem handlers_beyond_limit_lost :
    FitAll (List.replicate (blobLimit + 1) .handler)
        (repeated .handler (some (.own "h")) (blobLimit + 1)) ∧
      ¬ Gives (readFields (List.replicate (blobLimit + 1) .handler))
        (writeFields _ (repeated .handler (some (.own "h")) (blobLimit + 1)) {}).cursor
        (repeated .handler (some (.own "h")) (blobLimit + 1))
        ⟨[], handlers _ (repeated .handler (some (.own "h")) (blobLimit + 1))⟩ := by
  have hfits : Fits .handler (some (.own "h")) := trivial
  refine ⟨fitAll_repeated hfits _, fun h => ?_⟩
  have hlen := ((gives_writeFields_iff _ _).mp h).2
  rw [handlers_repeated, List.length_replicate] at hlen
  exact Nat.not_succ_le_self _ hlen

end Envelope

end AppletGateway
