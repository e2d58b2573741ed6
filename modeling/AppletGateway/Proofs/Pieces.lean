import AppletGateway.Proofs.Streams

/-!
# Streams cut into pieces

A stream of any bytes arrives in pieces, and after each piece the decoder gives out what is
complete. What it gives out up to the first error, and this error, are decided by the bytes alone:
a decoder is as good as its `stream`, so it makes no difference whether a frame was begun in one
piece or in another. As long as there is no error, the frames around the payloads given out and the
bytes that the decoder still holds make up all that has arrived.

Results:
* `Decoder.drains_drain`: draining goes on until a payload is not complete or there is an error.
* `Decoder.Drains.feed`: what a drained decoder gives out of more bytes is what comes next.
* `Decoder.cuts_make_no_difference`: the frames of a stream do not depend on how it is cut.
-/

namespace AppletGateway.Frame

/-- Payloads that can be sent have frames around them. -/
theorem exists_frames {ps : List Bytes} (h : ∀ p ∈ ps, 1 ≤ p.length ∧ p.length ≤ maxPayload) :
    ∃ b, Frames ps b := by
  induction ps with
  | nil => exact ⟨[], .nil⟩
  | cons p ps ih =>
    obtain ⟨f, hf⟩ := Option.isSome_iff_exists.mp
      ((encode_isSome_iff p).mpr (h p List.mem_cons_self))
    obtain ⟨b, hb⟩ := ih fun q hq => h q (List.mem_cons_of_mem p hq)
    exact ⟨f ++ b, .cons hf hb⟩

/-- Payloads with frames around them have 1 to 262144 bytes. -/
theorem Frames.lengths {ps : List Bytes} {b : Bytes} (h : Frames ps b) :
    ∀ p ∈ ps, 1 ≤ p.length ∧ p.length ≤ maxPayload := by
  induction h with
  | nil => nofun
  | cons head _ ih =>
    intro q hq
    rcases List.mem_cons.mp hq with rfl | hq
    · exact (eq_of_encode head).2
    · exact ih q hq

namespace Decoder

variable {d d' : Decoder}

/-! ## One step -/

/-- What a decoder gives out next, and the decoder afterwards, told by the bytes that it holds. -/
inductive Stepped (d : Decoder) : Except Error (Option Bytes) × Decoder → Prop
  /-- The first frame is not complete. -/
  | wait (d' : Decoder) : d'.Valid → d'.stream = d.stream → Stepped d (.ok none, d')
  | frame (p f rest : Bytes) : encode p = some f → d.stream = f ++ rest →
    Stepped d (.ok (some p), ⟨none, rest⟩)
  /-- The length in front is that of no payload. -/
  | error (w : UInt32) (rest : Bytes) : d.stream = Bytes.ofWord w ++ rest →
    (w.toNat = 0 ∨ maxPayload < w.toNat) → Stepped d (.error (.badLength w.toNat), {})

/-- Less than four bytes hold no header, and any more begin with one. -/
theorem short_or_header (b : Bytes) : next ⟨none, b⟩ = (.ok none, ⟨none, b⟩) ∨
    ∃ w rest, b = Bytes.ofWord w ++ rest := by
  match b with
  | [] | [_] | [_, _] | [_, _, _] => exact .inl rfl
  | a :: b :: c :: e :: rest =>
    exact .inr ⟨Bytes.toWord a b c e, rest, by rw [Bytes.ofWord_toWord]; rfl⟩

theorem stepped_next (hd : d.Valid) : Stepped d d.next := by
  rw [next_eq_stream hd]
  rcases short_or_header d.stream with hshort | ⟨w, rest, hs⟩
  · rw [hshort]
    exact .wait ⟨none, d.stream⟩ (valid_new _) rfl
  by_cases hbad : w.toNat = 0 ∨ maxPayload < w.toNat
  · rw [hs, next_header, if_pos hbad]
    exact .error w rest hs hbad
  have hframe {p : Bytes} (hp : p.length = w.toNat) : encode p = some (Bytes.ofWord w ++ p) := by
    rw [encode, hp, if_neg hbad, UInt32.ofNat_toNat]
  by_cases hpart : rest.length < w.toNat
  · -- The bytes are the beginning of a frame, whatever the rest of its payload is.
    have hfill := hframe (p := rest ++ List.replicate (w.toNat - rest.length) 0)
      (by rw [List.length_append, List.length_replicate]; omega)
    rw [← List.append_assoc, ← hs] at hfill
    obtain ⟨d', hn, hv, hstream⟩ := next_of_part hfill rfl (by
      rw [ne_eq, List.replicate_eq_nil_iff]
      omega)
    rw [hn]
    exact .wait d' hv hstream
  · have hsplit : d.stream = Bytes.ofWord w ++ rest.take w.toNat ++ rest.drop w.toNat := by
      rw [List.append_assoc, List.take_append_drop, hs]
    have hp := hframe (List.length_take_of_le (Nat.le_of_not_lt hpart))
    rw [hsplit, next_of_encode hp]
    exact .frame _ _ _ hp hsplit

/-- More bytes change nothing for a payload that is complete. -/
theorem next_feed_frame (hd : d.Valid) {p : Bytes} (hn : d.next = (.ok (some p), d')) (b : Bytes) :
    (d.feed b).next = (.ok (some p), d'.feed b) ∧ d'.Valid := by
  have h := stepped_next hd
  rw [hn] at h
  cases h with
  | frame _ f rest hf hs =>
    rw [next_eq_stream (hd.feed b), stream_feed, hs, List.append_assoc, next_of_encode hf]
    exact ⟨rfl, valid_new rest⟩

/-- Nor for an error. -/
theorem next_feed_error (hd : d.Valid) {e : Error} (hn : d.next = (.error e, d')) (b : Bytes) :
    (d.feed b).next = (.error e, d') := by
  have h := stepped_next hd
  rw [hn] at h
  cases h with
  | error w rest hs hbad =>
    rw [next_eq_stream (hd.feed b), stream_feed, hs, List.append_assoc, next_header, if_pos hbad]

/-- A decoder that waits holds what it held, and goes on waiting. -/
theorem next_wait (hd : d.Valid) (hn : d.next = (.ok none, d')) :
    d'.Valid ∧ d'.stream = d.stream ∧ d'.next = (.ok none, d') := by
  have h := stepped_next hd
  rw [hn] at h
  cases h with
  | wait _ hv hs =>
    refine ⟨hv, hs, ?_⟩
    rw [next_eq_stream hv, hs, ← next_eq_stream hd, hn]

/-! ## Draining -/

/-- The payloads given out one by one until one is not complete or there is an error, this error,
and the decoder afterwards. -/
inductive Drains : Decoder → List Bytes × Option Error × Decoder → Prop
  | wait {d d' : Decoder} : d.next = (.ok none, d') → Drains d ([], none, d')
  | error {d d' : Decoder} {e : Error} : d.next = (.error e, d') → Drains d ([], some e, d')
  | frame {d d' : Decoder} {p : Bytes} {ps : List Bytes} {r : Option Error × Decoder} :
    d.next = (.ok (some p), d') → Drains d' (ps, r) → Drains d (p :: ps, r)

theorem drains_drainUpTo : ∀ {limit : Nat} {d : Decoder}, d.Valid → d.buffered < limit →
    Drains d (d.drainUpTo limit)
  | 0, _, _, h => absurd h (Nat.not_lt_zero _)
  | limit + 1, d, hd, h => by
    rw [drainUpTo]
    split
    · exact .error ‹_›
    · exact .wait ‹_›
    · rename_i p d' hn
      have hlt := buffered_lt_of_next hd hn
      exact .frame hn (drains_drainUpTo (next_feed_frame hd hn []).2 (by omega))

/-- Draining ends only where a payload is not complete or there is an error. -/
theorem drains_drain (hd : d.Valid) : Drains d d.drain :=
  drains_drainUpTo hd (Nat.lt_succ_self _)

theorem Drains.unique {r r' : List Bytes × Option Error × Decoder} (h : Drains d r)
    (h' : Drains d r') : r = r' := by
  induction h generalizing r' with
  | wait hn =>
    cases h' with
    | wait hn' =>
      rw [hn] at hn'
      cases hn'
      rfl
    | error hn' | frame hn' _ =>
      rw [hn] at hn'
      cases hn'
  | error hn =>
    cases h' with
    | error hn' =>
      rw [hn] at hn'
      cases hn'
      rfl
    | wait hn' | frame hn' _ =>
      rw [hn] at hn'
      cases hn'
  | frame hn _ ih =>
    cases h' with
    | wait hn' | error hn' =>
      rw [hn] at hn'
      cases hn'
    | frame hn' hrest =>
      rw [hn] at hn'
      cases hn'
      cases ih hrest
      rfl

/-- Draining depends on nothing but what comes next. -/
theorem Drains.congr {d₂ : Decoder} {r : List Bytes × Option Error × Decoder}
    (hn : d₂.next = d.next) (h : Drains d r) : Drains d₂ r := by
  cases h with
  | wait h => exact .wait (hn.trans h)
  | error h => exact .error (hn.trans h)
  | frame h hrest => exact .frame (hn.trans h) hrest

/-- What a drained decoder holds: the frames given out and what it still holds are what it held, and
it waits for more. -/
theorem Drains.frames {ps : List Bytes} {error : Option Error} (h : Drains d (ps, error, d'))
    (hd : d.Valid) : ∃ b, Frames ps b ∧
      (error = none → b ++ d'.stream = d.stream ∧ d'.Valid ∧ d'.next = (.ok none, d')) := by
  generalize hr : (ps, error, d') = r at h
  induction h generalizing ps with
  | wait hn =>
    cases hr
    obtain ⟨hv, hs, hwait⟩ := next_wait hd hn
    exact ⟨[], .nil, fun _ => ⟨hs, hv, hwait⟩⟩
  | error hn =>
    cases hr
    exact ⟨[], .nil, nofun⟩
  | @frame d₁ d₂ p ps r hn _ ih =>
    cases hr
    have hstep := stepped_next hd
    rw [hn] at hstep
    cases hstep with
    | frame _ f rest hf hs =>
      obtain ⟨b, hb, hrest⟩ := ih (valid_new rest) rfl
      refine ⟨f ++ b, .cons hf hb, fun he => ?_⟩
      obtain ⟨hstream, hlast⟩ := hrest he
      rw [List.append_assoc, hstream, hs]
      exact ⟨rfl, hlast⟩

/-- More bytes do not change what an error has ended. -/
theorem Drains.feed_of_error {ps : List Bytes} {e : Error} (h : Drains d (ps, some e, d'))
    (hd : d.Valid) (b : Bytes) : Drains (d.feed b) (ps, some e, d') := by
  generalize hr : (ps, some e, d') = r at h
  induction h generalizing ps with
  | wait hn => cases hr
  | error hn =>
    cases hr
    exact .error (next_feed_error hd hn b)
  | frame hn _ ih =>
    cases hr
    obtain ⟨hfeed, hv⟩ := next_feed_frame hd hn b
    exact .frame hfeed (ih hv rfl)

/-- What a drained decoder gives out of more bytes is what comes next in the stream. -/
theorem Drains.feed {ps qs : List Bytes} {r : Option Error × Decoder} {b : Bytes}
    (h : Drains d (ps, none, d')) (hd : d.Valid) (hmore : Drains (d'.feed b) (qs, r)) :
    Drains (d.feed b) (ps ++ qs, r) := by
  generalize hr : (ps, (none : Option Error), d') = r₁ at h
  induction h generalizing ps with
  | wait hn =>
    cases hr
    -- A header may have been taken off, but the decoders stand for the same bytes.
    obtain ⟨hv, hs, -⟩ := next_wait hd hn
    refine Drains.congr ?_ hmore
    rw [next_eq_stream (hd.feed b), next_eq_stream (hv.feed b), stream_feed, stream_feed, hs]
  | error hn => cases hr
  | frame hn _ ih =>
    cases hr
    obtain ⟨hfeed, hv⟩ := next_feed_frame hd hn b
    exact .frame hfeed (ih hv rfl)

/-! ## Pieces -/

/-- Takes in pieces one after another and gives out after each what is complete, up to the first
error. -/
def receive : (pieces : List Bytes) → Decoder → List Bytes × Option Error × Decoder
  | [], d => ([], none, d)
  | piece :: pieces, d =>
    match (d.feed piece).drain with
    | (payloads, some e, d) => (payloads, some e, d)
    | (payloads, none, d) =>
      let (more, r) := receive pieces d
      (payloads ++ more, r)

theorem feed_append (d : Decoder) (a b : Bytes) : d.feed (a ++ b) = (d.feed a).feed b := by
  simp [Decoder.feed]

/-- Receiving pieces is draining after all of them have arrived. -/
theorem drains_receive : ∀ (pieces : List Bytes) {d : Decoder}, d.Valid → d.next = (.ok none, d) →
    Drains (d.feed pieces.flatten) (receive pieces d)
  | [], d, hd, hwait => by
    have hsame : d.feed [].flatten = d := by simp [Decoder.feed]
    rw [hsame]
    exact .wait hwait
  | piece :: pieces, d, hd, hwait => by
    have hdrains := drains_drain (hd.feed piece)
    rw [receive, List.flatten_cons, feed_append]
    generalize (d.feed piece).drain = r at hdrains
    rcases r with ⟨ps, _ | e, d'⟩
    · obtain ⟨b, -, hend⟩ := hdrains.frames (hd.feed piece)
      obtain ⟨-, hv, hwait'⟩ := hend rfl
      exact hdrains.feed (hd.feed piece) (drains_receive pieces hv hwait')
    · exact hdrains.feed_of_error (hd.feed piece) pieces.flatten

theorem drains_new (pieces : List Bytes) : Drains ⟨none, pieces.flatten⟩ (receive pieces {}) :=
  drains_receive pieces (valid_new []) rfl

/-- Frames that have arrived as a whole are given out, and nothing is left. -/
theorem drains_frames {ps : List Bytes} {b : Bytes} (h : Frames ps b) :
    Drains ⟨none, b⟩ (ps, none, {}) := by
  induction h with
  | nil => exact .wait rfl
  | cons head _ ih => exact .frame (next_of_encode head _) ih

/-- For every stream and every way of cutting it: what is given out up to the first error, this
error, and what the decoder holds afterwards are the same as for the whole stream at once. Each
payload has 1 to 262144 bytes. Without an error the decoder has given out all that is complete, and
the frames around the payloads and the bytes that it holds are the stream. Any payloads of such
lengths come out of their frames, and nothing is left. -/
theorem cuts_make_no_difference (pieces : List Bytes) :
    receive pieces {} = receive [pieces.flatten] {} ∧
    (∀ p ∈ (receive pieces {}).1, 1 ≤ p.length ∧ p.length ≤ maxPayload) ∧
    ((receive pieces {}).2.1 = none → ∃ b, Frames (receive pieces {}).1 b ∧
      b ++ (receive pieces {}).2.2.stream = pieces.flatten ∧
      (receive pieces {}).2.2.next = (.ok none, (receive pieces {}).2.2)) ∧
    ∀ payloads, (∀ p ∈ payloads, 1 ≤ p.length ∧ p.length ≤ maxPayload) →
      ∃ b, Frames payloads b ∧ receive [b] {} = (payloads, none, {}) := by
  have hpieces := drains_new pieces
  obtain ⟨b, hframes, hend⟩ := hpieces.frames (valid_new _)
  refine ⟨?_, hframes.lengths, fun he => ?_, fun payloads hlengths => ?_⟩
  · have hwhole := drains_new [pieces.flatten]
    rw [List.flatten_singleton] at hwhole
    exact hpieces.unique hwhole
  · obtain ⟨hstream, -, hwait⟩ := hend he
    exact ⟨b, hframes, hstream, hwait⟩
  · obtain ⟨b, hb⟩ := exists_frames hlengths
    have hwhole := drains_new [b]
    rw [List.flatten_singleton] at hwhole
    exact ⟨b, hb, hwhole.unique (drains_frames hb)⟩

/-- Two frames and the beginning of a third, cut inside both headers and payloads. -/
theorem cuts_make_no_difference_three :
    let pieces : List Bytes := [[2, 0], [0, 0, 7], [8, 1, 0, 0, 0, 9, 5, 0, 0, 0, 1]]
    receive pieces {} = ([[7, 8], [9]], none, ⟨some 5, [1]⟩) ∧
      receive [pieces.flatten] {} = ([[7, 8], [9]], none, ⟨some 5, [1]⟩) ∧
      (∃ b, Frames [[7, 8], [9]] b ∧ b ++ [5, 0, 0, 0, 1] = pieces.flatten) ∧
      ∃ b, Frames [[7, 8], [9]] b ∧ receive [b] {} = ([[7, 8], [9]], none, {}) := by
  intro pieces
  have hreceive : receive pieces {} = ([[7, 8], [9]], none, ⟨some 5, [1]⟩) := by decide
  obtain ⟨hcut, -, hframes, hall⟩ := cuts_make_no_difference pieces
  obtain ⟨b, hb, hstream, -⟩ := hframes (by rw [hreceive])
  rw [hreceive] at hcut hb hstream
  exact ⟨hreceive, hcut.symm, ⟨b, hb, hstream⟩, hall [[7, 8], [9]] (by decide)⟩

end Decoder

end AppletGateway.Frame
