import AppletGateway.Frame

/-!
# Reading a stream of frames that arrives in pieces

A decoder has read some bytes of a stream and the rest is still under way. As long as the stream is
a sequence of frames, the decoder gives out their payloads in order and waits wherever a frame is
not complete, however the bytes are cut into pieces.

`Decoder.stream d` is what `d` has read and not given out, with the header that it has taken off. So
the bytes to be decoded are `d.stream` followed by those under way, and feeding the decoder moves
bytes from the one to the other.

Results:
* `Decoder.next_of_frames`: the decoder gives out the first payload of the stream, or waits because
  the first frame has not arrived as a whole.
* `Decoder.next_of_whole`: one frame, arrived as a whole, is given out and nothing is left.
-/

namespace AppletGateway.Frame

/-- A payload fits into a frame if a longer one does. -/
theorem encode_eq_none_of_le {p p' : Bytes} (h : encode p = none) (hne : p ≠ [])
    (hle : p.length ≤ p'.length) : encode p' = none := by
  rw [← Option.not_isSome_iff_eq_none, encode_isSome_iff] at h ⊢
  have := List.length_pos_iff.mpr hne
  omega

/-- The bytes `b` are the frames around the payloads `ps`, one after another. -/
inductive Frames : (ps : List Bytes) → (b : Bytes) → Prop
  | nil : Frames [] []
  | cons {p f b : Bytes} {ps : List Bytes} (head : encode p = some f) (tail : Frames ps b) :
    Frames (p :: ps) (f ++ b)

theorem Frames.append {ps qs : List Bytes} {b c : Bytes} (hp : Frames ps b) (hq : Frames qs c) :
    Frames (ps ++ qs) (b ++ c) := by
  induction hp with
  | nil => exact hq
  | cons head _ ih =>
    rw [List.append_assoc]
    exact .cons head ih

theorem Frames.single {p f : Bytes} (h : encode p = some f) : Frames [p] f := by
  have := Frames.cons h .nil
  rwa [List.append_nil] at this

theorem Frames.eq_nil {b : Bytes} (h : Frames [] b) : b = [] := by
  cases h
  rfl

/-- A frame is its payload behind the length. -/
theorem eq_of_encode {p f : Bytes} (h : encode p = some f) :
    f = Bytes.ofWord (UInt32.ofNat p.length) ++ p ∧ 1 ≤ p.length ∧ p.length ≤ maxPayload := by
  unfold encode at h
  split at h
  · cases h
  · exact ⟨(Option.some.inj h).symm, by omega, by omega⟩

theorem toNat_length {n : Nat} (h : n ≤ maxPayload) : (UInt32.ofNat n).toNat = n := by
  have hmax : maxPayload < 4294967296 := by decide
  simp only [UInt32.toNat_ofNat']
  omega

theorem encode_ne_nil {p f : Bytes} (h : encode p = some f) : f ≠ [] := by
  obtain ⟨rfl, hp, _⟩ := eq_of_encode h
  intro hf
  rw [List.append_eq_nil_iff] at hf
  rw [hf.2] at hp
  simp at hp

namespace Decoder

/-- The bytes read and not given out, with the header that has been taken off. -/
def stream (d : Decoder) : Bytes :=
  match d.expected with
  | none => d.pending
  | some n => Bytes.ofWord (UInt32.ofNat n) ++ d.pending

/-- A header that has been taken off was a good one. -/
def Valid (d : Decoder) : Prop := ∀ n, d.expected = some n → 1 ≤ n ∧ n ≤ maxPayload

theorem valid_new (b : Bytes) : Valid ⟨none, b⟩ := nofun

@[simp]
theorem stream_new (b : Bytes) : stream ⟨none, b⟩ = b := rfl

/-- Feeding moves bytes from those under way to those read. -/
@[simp]
theorem stream_feed (d : Decoder) (b : Bytes) : (d.feed b).stream = d.stream ++ b := by
  unfold stream feed
  cases d.expected <;> simp

theorem Valid.feed {d : Decoder} (h : d.Valid) (b : Bytes) : (d.feed b).Valid := h

/-- A decoder without bytes is as new. -/
theorem eq_new_of_stream {d : Decoder} (h : d.stream = []) : d = {} := by
  rcases d with ⟨_ | n, pending⟩
  · obtain rfl : pending = [] := h
    rfl
  · simp [stream, Bytes.ofWord] at h

/-- Taking a header off does not change what comes next. -/
theorem next_eq_stream {d : Decoder} (h : d.Valid) : d.next = next ⟨none, d.stream⟩ := by
  rcases d with ⟨_ | n, pending⟩
  · rfl
  · obtain ⟨hpos, hmax⟩ := h n rfl
    show next ⟨some n, pending⟩ = next ⟨none, Bytes.ofWord (UInt32.ofNat n) ++ pending⟩
    rw [next_header, toNat_length hmax, if_neg (by omega)]
    rfl

/-- A frame of which a part is missing is waited for, and nothing that was read is lost. -/
theorem next_of_part {p f b more : Bytes} (h : encode p = some f) (hf : f = b ++ more)
    (hmore : more ≠ []) : ∃ d', next ⟨none, b⟩ = (.ok none, d') ∧ d'.Valid ∧ d'.stream = b := by
  obtain ⟨rfl, hpos, hmax⟩ := eq_of_encode h
  have hlen : 0 < more.length := List.length_pos_iff.mpr hmore
  have htotal := congrArg List.length hf
  simp only [List.length_append, Bytes.length_ofWord] at htotal
  rcases List.append_eq_append_iff.mp hf with ⟨rest, hb, hp⟩ | ⟨rest, hw, hm⟩
  · -- The header has arrived: the decoder takes it off.
    rw [hb, next_header, toNat_length hmax, if_neg (by omega)]
    have hshort : rest.length < p.length := by
      rw [hp, List.length_append]
      omega
    refine ⟨⟨some p.length, rest⟩, by simp [payload, hshort], ?_, rfl⟩
    intro n hn
    obtain rfl := Option.some.inj hn
    exact ⟨hpos, hmax⟩
  · by_cases hrest : rest = []
    · -- Exactly the header has arrived.
      subst hrest
      rw [List.append_nil] at hw
      have := next_header (UInt32.ofNat p.length) []
      rw [List.append_nil, hw, toNat_length hmax, if_neg (by omega)] at this
      refine ⟨⟨some p.length, []⟩, ?_, ?_, ?_⟩
      · rw [this]
        have : 0 < p.length := by omega
        simp [payload, this]
      · intro n hn
        obtain rfl := Option.some.inj hn
        exact ⟨hpos, hmax⟩
      · simp [stream, hw]
    · refine ⟨⟨none, b⟩, ?_, valid_new b, rfl⟩
      have hb : b.length < 4 := by
        have := congrArg List.length hw
        simp only [List.length_append, Bytes.length_ofWord] at this
        have := List.length_pos_iff.mpr hrest
        omega
      rcases b with _ | ⟨_, _ | ⟨_, _ | ⟨_, _ | ⟨_, _⟩⟩⟩⟩
      iterate 4 rfl
      simp only [List.length_cons] at hb
      omega

/-- A payload that is given out is taken from the bytes that were read. -/
theorem buffered_lt_of_next {d d' : Decoder} {p : Bytes} (h : d.Valid)
    (hn : d.next = (.ok (some p), d')) : d'.buffered < d.buffered := by
  have hpay : ∀ {n : Nat} {b : Bytes}, 1 ≤ n → payload n b = (some p, d') →
      d'.pending.length < b.length := by
    intro n b hn hp
    unfold payload at hp
    split at hp
    · simp at hp
    · simp only [Prod.mk.injEq] at hp
      rw [← hp.2]
      simp only [List.length_drop]
      omega
  unfold next at hn
  unfold buffered
  rcases d with ⟨_ | n, pending⟩
  · match pending with
    | [] | [_] | [_, _] | [_, _, _] => simp at hn
    | a :: b :: c :: e :: rest =>
      simp only at hn
      split at hn
      · simp at hn
      · rename_i hlen
        simp only [Prod.mk.injEq, Except.ok.injEq] at hn
        have := hpay (n := (Bytes.toWord a b c e).toNat) (by omega) (Prod.ext hn.1 hn.2)
        simp only [List.length_cons]
        omega
  · simp only [Prod.mk.injEq, Except.ok.injEq] at hn
    exact hpay (h n rfl).1 (Prod.ext hn.1 hn.2)

/-- Out of a stream of frames the decoder gives the first payload, or it waits because the first
frame has not arrived as a whole; if nothing is under way, there is none then. -/
theorem next_of_frames {d : Decoder} {ps : List Bytes} {more : Bytes} (hd : d.Valid)
    (h : Frames ps (d.stream ++ more)) :
    (∃ d', d.next = (.ok none, d') ∧ d'.Valid ∧ d'.stream = d.stream ∧ (more = [] → ps = [])) ∨
      ∃ p ps' d', ps = p :: ps' ∧ d.next = (.ok (some p), d') ∧ d'.Valid ∧
        Frames ps' (d'.stream ++ more) := by
  rw [next_eq_stream hd]
  generalize hb : d.stream ++ more = b at h
  cases h with
  | nil =>
    obtain ⟨hs, _⟩ := List.append_eq_nil_iff.mp hb
    rw [hs]
    exact .inl ⟨⟨none, []⟩, rfl, valid_new [], rfl, fun _ => rfl⟩
  | @cons p f rest ps head tail =>
    rcases List.append_eq_append_iff.mp hb with ⟨missing, hf, hm⟩ | ⟨extra, hs, hr⟩
    · by_cases hmissing : missing = []
      · subst hmissing
        rw [List.append_nil] at hf
        rw [List.nil_append] at hm
        refine .inr ⟨p, ps, ⟨none, []⟩, rfl, ?_, valid_new [], ?_⟩
        · have := next_of_encode head []
          rwa [List.append_nil, hf] at this
        · rw [stream_new, List.nil_append, hm]
          exact tail
      · obtain ⟨d', hn, hv, hs⟩ := next_of_part head hf hmissing
        refine .inl ⟨d', hn, hv, hs, fun hmore => ?_⟩
        rw [hmore] at hm
        exact absurd (List.append_eq_nil_iff.mp hm.symm).1 hmissing
    · refine .inr ⟨p, ps, ⟨none, extra⟩, rfl, ?_, valid_new extra, ?_⟩
      · rw [hs]
        exact next_of_encode head extra
      · rw [stream_new, ← hr]
        exact tail

/-- One frame that has arrived as a whole is given out, and nothing is left. -/
theorem next_of_whole {d : Decoder} {p f : Bytes} (hd : d.Valid) (h : encode p = some f)
    (hs : d.stream = f) : d.next = (.ok (some p), {}) := by
  rw [next_eq_stream hd, hs]
  have := next_of_encode h []
  rwa [List.append_nil] at this

end Decoder

end AppletGateway.Frame
