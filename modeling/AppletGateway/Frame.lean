import AppletGateway.Bytes

/-!
# Frames

A frame is a payload of 1 to 262144 bytes behind its length, a word. The same frames carry the
messages of the co-processor and those of the socket endpoint.

A `Frame.Decoder` takes bytes as they arrive and gives the payloads out one by one. A message may
hold part of a frame, several frames, or the end of one and the start of the next; what follows a
frame is kept for the next. A bad length cannot be passed over: it drops all that was buffered.

Main statements:

* `Frame.Decoder.next_of_encode`: an encoded payload is the next one given out.
* `Frame.encode_isSome_iff`: which payloads can be sent at all.
-/

namespace AppletGateway.Frame

/-- The longest payload: two outputs of 65535 bytes and room to spare (`MAX_FRAME_SIZE`). -/
def maxPayload : Nat := 262144

/-- The frame around a payload, if the payload can be sent (`encode_frame`). -/
def encode (payload : Bytes) : Option Bytes :=
  if payload.length = 0 ∨ maxPayload < payload.length then none
  else some (Bytes.ofWord (UInt32.ofNat payload.length) ++ payload)

/-- Writes the frame around `payload` over the start of `buffer`, if it fits, and gives the number
of bytes written with the buffer afterwards (`encode_frame_into`). -/
def encodeInto (payload buffer : Bytes) : Option (Nat × Bytes) := do
  let frame ← encode payload
  if buffer.length < frame.length then none
  else some (frame.length, frame ++ buffer.drop frame.length)

/-- What makes a stream of frames unreadable (`FrameError`). -/
inductive Error
  /-- A header announced an empty payload or one that is too long. -/
  | badLength (length : Nat)
  deriving DecidableEq

/-- The wording of an error. -/
def Error.message : Error → String
  | badLength length => "bad frame length " ++ toString length

/-- The reading side of a stream of frames (`FrameDecoder`). -/
structure Decoder where
  /-- The length of the payload whose header has been read. -/
  expected : Option Nat := none
  /-- The bytes received and not given out, without the header that `expected` stands for. -/
  pending : Bytes := []
  deriving DecidableEq, Inhabited

namespace Decoder

/-- Takes in received bytes (`feed`). -/
def feed (d : Decoder) (received : Bytes) : Decoder :=
  { d with pending := d.pending ++ received }

/-- The number of bytes received and not given out (`buffered`). -/
def buffered (d : Decoder) : Nat := d.pending.length

/-- Gives out a payload of `n` bytes once it is complete. -/
def payload (n : Nat) (pending : Bytes) : Option Bytes × Decoder :=
  if pending.length < n then (none, ⟨some n, pending⟩)
  else (some (pending.take n), ⟨none, pending.drop n⟩)

/-- Gives out the next payload if it is complete (`next_frame`). After an error the decoder is as
new. -/
def next (d : Decoder) : Except Error (Option Bytes) × Decoder :=
  match d.expected, d.pending with
  | some n, pending =>
    let (frame, d) := payload n pending
    (.ok frame, d)
  | none, a :: b :: c :: e :: rest =>
    let n := (Bytes.toWord a b c e).toNat
    if n = 0 ∨ maxPayload < n then (.error (.badLength n), {})
    else
      let (frame, d) := payload n rest
      (.ok frame, d)
  | none, _ => (.ok none, d)

/-- Gives out the payloads that are complete, at most `limit` of them, up to the first error. -/
def drainUpTo : (limit : Nat) → Decoder → List Bytes × Option Error × Decoder
  | 0, d => ([], none, d)
  | limit + 1, d =>
    match d.next with
    | (.error e, d) => ([], some e, d)
    | (.ok none, d) => ([], none, d)
    | (.ok (some payload), d) =>
      let (payloads, error, d) := drainUpTo limit d
      (payload :: payloads, error, d)

/-- Gives out all payloads that are complete, up to the first error. Each takes a byte at least, so
there are no more of them than bytes. -/
def drain (d : Decoder) : List Bytes × Option Error × Decoder := d.drainUpTo (d.buffered + 1)

end Decoder

/-! ## Encoding and decoding -/

/-- A payload can be sent exactly if it has 1 to 262144 bytes. -/
theorem encode_isSome_iff (payload : Bytes) :
    (encode payload).isSome ↔ 1 ≤ payload.length ∧ payload.length ≤ maxPayload := by
  unfold encode
  split
  · simp only [Option.isSome_none, Bool.false_eq_true, false_iff]
    omega
  · simp only [Option.isSome_some, true_iff]
    omega

/-- What a decoder between frames makes of a header. -/
theorem Decoder.next_header (w : UInt32) (rest : Bytes) :
    Decoder.next ⟨none, Bytes.ofWord w ++ rest⟩ =
      if w.toNat = 0 ∨ maxPayload < w.toNat then (.error (.badLength w.toNat), {})
      else (.ok (Decoder.payload w.toNat rest).1, (Decoder.payload w.toNat rest).2) := by
  have h := Bytes.toWord_ofWord w
  unfold Bytes.ofWord
  generalize UInt8.ofNat w.toNat = a at h ⊢
  generalize UInt8.ofNat (w.toNat / 256) = b at h ⊢
  generalize UInt8.ofNat (w.toNat / 65536) = c at h ⊢
  generalize UInt8.ofNat (w.toNat / 16777216) = e at h ⊢
  subst h
  rfl

/-- An encoded payload is the next one that the decoder gives out, and what follows it is kept. -/
theorem Decoder.next_of_encode {payload frame : Bytes} (h : encode payload = some frame)
    (rest : Bytes) : Decoder.next ⟨none, frame ++ rest⟩ = (.ok (some payload), ⟨none, rest⟩) := by
  unfold encode at h
  split at h
  · cases h
  · rename_i hlen
    obtain rfl := Option.some.inj h
    have hmax : maxPayload < 4294967296 := by decide
    have hw : (UInt32.ofNat payload.length).toNat = payload.length := by
      simp only [UInt32.toNat_ofNat']
      omega
    have hrest : ¬ (payload.length + rest.length < payload.length) := by omega
    rw [List.append_assoc, Decoder.next_header, hw, if_neg hlen]
    simp [Decoder.payload, hrest]

end AppletGateway.Frame
