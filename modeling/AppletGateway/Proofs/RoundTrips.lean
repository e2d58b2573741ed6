import AppletGateway.Proofs.Envelopes

/-!
# What is written is read back

Texts and blobs of less than 2 GiB have lengths that an envelope can carry. Fields with such texts
and blobs are read back as they were written, whatever stands behind them, and so are the requests
and replies made of them. A reply also has to be one that its call can have: a body of the right
shape, at most as many lengths as the call has outputs, or a status that is the canonical one for
its code and has no fields.

Results:
* `Envelope.ends_readFields_append`: fields that fit are read back.
* `Request.decode_encode`: a request whose fields fit is read back.
* `Reply.decode_encode`: a reply that its call can have is read back.
-/

namespace AppletGateway

theorem Bytes.length_ofText (s : String) : (Bytes.ofText s).length = s.utf8ByteSize := by
  simp [Bytes.ofText]

namespace Envelope

/-- One more than the longest text or blob that an envelope can carry. -/
def blobLimit : Nat := 2147483648

/-- An envelope can carry a field if it can carry its length. -/
def Fits : (k : Kind) → k.Value → Prop
  | .text, some s => s.utf8ByteSize < blobLimit
  | .blob, b => b.length < blobLimit
  | _, _ => True

/-- Each of some fields fits. -/
def FitAll : (ks : List Kind) → Fields ks → Prop
  | [], _ => True
  | k :: ks, (v, vs) => Fits k v ∧ FitAll ks vs

variable {all : List Handler}

/-! ## Fields -/

theorem ne_absentMark_of_toNat_lt {w : UInt32} (h : w.toNat < blobLimit) : w ≠ absentMark := by
  rintro rfl
  rw [toNat_absentMark] at h
  exact absurd h (by decide)

theorem toNat_ofNat_of_lt {n : Nat} (h : n < blobLimit) : (UInt32.ofNat n).toNat = n := by
  rw [UInt32.toNat_ofNat']
  unfold blobLimit at h
  omega

theorem ends_readBytes_append {n : Nat} {b tail : Bytes} (hn : b.length = n)
    {Q : Except EnvelopeError Bytes → Cursor → Prop} (h : Q (.ok b) ⟨tail, all⟩) :
    Ends (readBytes n) ⟨b ++ tail, all⟩ Q := by
  subst hn
  refine ends_readBytes (fun hshort => ?_) fun _ => ?_
  · simp only [List.length_append] at hshort
    omega
  · simp only [List.take_left' rfl, List.drop_left' rfl]
    exact h

theorem ends_readPadded_of_lt {b : Bytes} (h : b.length < blobLimit) (tail : Bytes)
    {Q : Except EnvelopeError (Option Bytes) → Cursor → Prop} (hQ : Q (.ok (some b)) ⟨tail, all⟩) :
    Ends readPadded ⟨blobBytes b ++ tail, all⟩ Q := by
  have hlen := toNat_ofNat_of_lt h
  unfold readPadded blobBytes
  rw [List.append_assoc, List.append_assoc, ends_bind]
  refine ends_readWord _ _ ?_
  generalize UInt32.ofNat b.length = w at hlen
  rw [← hlen] at h
  simp only [andThen_ok, if_neg (ne_absentMark_of_toNat_lt h), if_neg (nonneg_iff.mpr h), ends_bind,
    ends_get, ends_ite, hlen]
  have hle := le_padded b.length
  rw [if_neg (by simp only [List.length_append, List.length_replicate]; omega)]
  refine ends_readBytes_append rfl ?_
  rw [andThen_ok, ends_bind]
  exact ends_readBytes_append List.length_replicate hQ

/-- A field that fits is read back, if its handler is where it was put. -/
theorem ends_readField {k : Kind} {v : k.Value} (hfits : Fits k v) {objects : List Handler}
    (hroom : objects.length < blobLimit) (hall : (writeField k v ⟨[], objects⟩).objects <+: all)
    (tail : Bytes) {Q : Except EnvelopeError k.Value → Cursor → Prop}
    (hQ : Q (.ok v) ⟨tail, all⟩) :
    Ends (readField k) ⟨(writeField k v ⟨[], objects⟩).data ++ tail, all⟩ Q := by
  cases k with
  | int =>
    show Ends readInt ⟨Bytes.ofWord v.toUInt32 ++ tail, all⟩ Q
    rw [readInt, ends_bind]
    refine ends_readWord _ _ ?_
    exact hQ
  | word => exact ends_readWord _ _ hQ
  | text =>
    show Ends readText _ Q
    rw [readText, ends_bind]
    cases v with
    | none =>
      rw [readPadded, ends_bind]
      exact ends_readWord absentMark tail hQ
    | some s =>
      have hlen : (Bytes.ofText s).length < blobLimit := by rwa [Bytes.length_ofText]
      refine ends_readPadded_of_lt hlen tail ?_
      simp only [andThen_ok, Bytes.toText?_ofText]
      exact hQ
  | blob =>
    show Ends readBlob _ Q
    rw [readBlob, ends_bind]
    exact ends_readPadded_of_lt hfits tail hQ
  | handler =>
    show Ends readHandler _ Q
    rw [readHandler, ends_bind]
    cases v with
    | none => exact ends_readWord absentMark tail hQ
    | some h =>
      have hget : all[objects.length]? = some h := by
        obtain ⟨rest, rfl⟩ := hall
        simp [writeField, writeHandler]
      refine ends_readWord (UInt32.ofNat objects.length) tail ?_
      have hlen := toNat_ofNat_of_lt hroom
      generalize UInt32.ofNat objects.length = w at hlen
      rw [← hlen] at hroom hget
      simp only [andThen_ok, if_neg (ne_absentMark_of_toNat_lt hroom),
        if_neg (nonneg_iff.mpr hroom), ends_bind, ends_get, hget]
      exact hQ

theorem objects_writeField (k : Kind) (v : k.Value) (e : Envelope) :
    e.objects <+: (writeField k v e).objects ∧
      (writeField k v e).objects.length ≤ e.objects.length + 1 := by
  have hsame (e' : Envelope) (h : e'.objects = e.objects) :
      e.objects <+: e'.objects ∧ e'.objects.length ≤ e.objects.length + 1 := by
    rw [h]
    exact ⟨List.prefix_rfl, Nat.le_succ _⟩
  cases k with
  | int | word | blob => exact hsame _ rfl
  | text => cases v <;> exact hsame _ rfl
  | handler =>
    cases v with
    | none => exact hsame _ rfl
    | some h => exact ⟨List.prefix_append _ _, by simp [writeField, writeHandler]⟩

theorem objects_writeFields : ∀ (ks : List Kind) (vs : Fields ks) (e : Envelope),
    e.objects <+: (writeFields ks vs e).objects
  | [], _, _ => List.prefix_rfl
  | k :: ks, (v, vs), e =>
    (objects_writeField k v e).1.trans (objects_writeFields ks vs (e.writeField k v))

/-- Fields that fit are read back, whatever stands behind them. -/
theorem ends_readFields_append : ∀ (ks : List Kind) (vs : Fields ks), FitAll ks vs →
    ∀ (objects : List Handler), objects.length + ks.length ≤ blobLimit →
      (writeFields ks vs ⟨[], objects⟩).objects <+: all → ∀ (tail : Bytes),
        Ends (readFields ks) ⟨(writeFields ks vs ⟨[], objects⟩).data ++ tail, all⟩ fun r c =>
          r = .ok vs ∧ c = ⟨tail, all⟩
  | [], _, _, _, _, _, _ => ⟨rfl, rfl⟩
  | k :: ks, (v, vs), ⟨hfits, hrest⟩, objects, hroom, hall, tail => by
    have hmore := objects_writeField k v ⟨[], objects⟩
    have hstart : writeFields (k :: ks) (v, vs) ⟨[], objects⟩ =
        ⟨(writeField k v ⟨[], objects⟩).data ++
            (writeFields ks vs ⟨[], (writeField k v ⟨[], objects⟩).objects⟩).data,
          (writeFields ks vs ⟨[], (writeField k v ⟨[], objects⟩).objects⟩).objects⟩ := by
      rw [writeFields, ← writeFields_append, List.append_nil]
    rw [List.length_cons] at hroom
    rw [hstart] at hall ⊢
    rw [readFields, ends_bind, List.append_assoc]
    have hfirst : (writeField k v ⟨[], objects⟩).objects <+: all :=
      (objects_writeFields ks vs ⟨[], (writeField k v ⟨[], objects⟩).objects⟩).trans hall
    refine ends_readField hfits (by omega) hfirst _ ?_
    rw [andThen_ok, ends_bind]
    refine (ends_readFields_append ks vs hrest _ ?_ hall tail).mono fun r c hr => ?_
    · have := hmore.2
      dsimp only at this
      omega
    · obtain ⟨rfl, rfl⟩ := hr
      exact ⟨rfl, rfl⟩

end Envelope

/-! ## Requests -/

namespace Request

open Envelope

/-- A request whose fields fit is read back, if the interface is the expected one. -/
theorem decode_encode {q : Request} {descriptor : String}
    (hdescriptor : descriptor.utf8ByteSize < blobLimit) (hfit : FitAll q.opcode.layout q.fields) :
    decode q.opcode.code descriptor (q.encode descriptor) = .ok q := by
  have hcursor : (q.encode descriptor).cursor = ⟨textBytes (some descriptor) ++
      ((writeFields q.opcode.layout q.fields {}).data ++ []),
      (writeFields q.opcode.layout q.fields {}).objects⟩ := by
    rw [encode, writeText_nil, writeFields_append, List.append_nil]
    rfl
  have hroom : ([] : List Handler).length + q.opcode.layout.length ≤ blobLimit := by
    cases q.opcode <;> decide
  suffices hread : Ends (read q.opcode.code descriptor) (q.encode descriptor).cursor
      fun r _ => r = .ok q from hread
  rw [hcursor, read, ends_bind, readInterface, ends_bind]
  have hstart : ([] : List Handler).length < blobLimit := by decide
  refine ends_readField (k := .text) (v := some descriptor) hdescriptor hstart List.nil_prefix _ ?_
  rw [andThen_ok, ends_ite, if_pos rfl, ends_pure, andThen_ok, Opcode.ofCode?_code, ends_bind]
  refine (ends_readFields_append _ _ hfit [] hroom List.prefix_rfl []).mono fun r c hr => ?_
  obtain ⟨rfl, rfl⟩ := hr
  simp only [andThen_ok, ends_bind, ends_get, List.length_nil, ne_eq, not_true_eq_false, if_false]
  exact congrArg Except.ok (ofFields_fields q)

end Request

/-! ## Replies -/

namespace Reply

open Envelope

/-- What a call can have as its reply, and an envelope can carry. -/
def Possible (o : Opcode) : Reply → Prop
  | ok body => body.shape = o.row.body ∧ FitAll body.shape.layout body.fields
  | tooSmall required => required.toList.length ≤ o.row.outputs
  | failed s => Status.ofCode s.code = s ∧ s ≠ .success ∧ s ≠ .insufficientBuffer

/-- The bytes of some words. -/
theorem foldl_writeWord (ws : List UInt32) (e : Envelope) :
    ws.foldl (fun e w => e.writeWord w) e =
      ⟨e.data ++ (ws.map Bytes.ofWord).flatten, e.objects⟩ := by
  induction ws generalizing e with
  | nil => simp
  | cons w ws ih =>
    rw [List.foldl_cons, ih]
    simp [writeWord]

/-- Where a word can be read, the reading goes on, and where not it ends. -/
theorem ends_readLengths_succ {n : Nat} {c : Cursor}
    {Q : Except EnvelopeError (List UInt32) → Cursor → Prop} :
    Ends (readLengths (n + 1)) c Q = Ends readWord c fun
      | .ok w, c => Ends (do return w :: (← readLengths n)) c Q
      | .error _, c => Q (.ok []) c := by
  rw [readLengths]
  simp only [Ends, ExceptT.run]
  rcases readWord c with ⟨_ | _, _⟩ <;> rfl

/-- Words are read up to the last, or as many of them as are asked for. -/
theorem ends_readLengths {all : List Handler} : ∀ (n : Nat) (ws : List UInt32),
    Ends (readLengths n) ⟨(ws.map Bytes.ofWord).flatten, all⟩ fun r _ => r = .ok (ws.take n)
  | 0, _ => rfl
  | n + 1, [] => rfl
  | n + 1, w :: ws => by
    rw [ends_readLengths_succ]
    refine ends_readWord w _ ?_
    dsimp only
    rw [ends_bind]
    refine (ends_readLengths n ws).mono fun r c hr => ?_
    rw [hr]
    rfl

/-- Of the lengths in an answer "too small", a call reads as many as it has outputs. -/
theorem decode_tooSmall (o : Opcode) (required : Lengths) :
    decode o (encode (tooSmall required)) =
      .ok (tooSmall (.ofList (required.toList.take o.row.outputs))) := by
  suffices hread : Ends (read o) (encode (tooSmall required)).cursor
      fun r _ => r = .ok (tooSmall (.ofList (required.toList.take o.row.outputs))) from hread
  have hcursor : (encode (tooSmall required)).cursor =
      ⟨Bytes.ofWord Status.insufficientBuffer.code ++
        (required.toList.map Bytes.ofWord).flatten, []⟩ := by
    rw [encode]
    simp only [foldl_writeWord]
    rfl
  have hcode : Status.ofCode Status.insufficientBuffer.code = .insufficientBuffer := by decide
  rw [hcursor, read, ends_bind]
  refine ends_readWord _ _ ?_
  rw [andThen_ok, hcode, ends_bind]
  refine (ends_readLengths _ _).mono fun r c hr => ?_
  rw [hr]
  rfl

/-- A reply that its call can have is read back. -/
theorem decode_encode {o : Opcode} {reply : Reply} (h : reply.Possible o) :
    decode o reply.encode = .ok reply := by
  suffices hread : Ends (read o) reply.encode.cursor fun r _ => r = .ok reply from hread
  cases reply with
  | ok body =>
    obtain ⟨hshape, hfit⟩ := h
    have hcursor : (encode (ok body)).cursor = ⟨Bytes.ofWord 0 ++
        ((writeFields body.shape.layout body.fields {}).data ++ []),
        (writeFields body.shape.layout body.fields {}).objects⟩ := by
      rw [List.append_nil]
      exact congrArg cursor (writeFields_append (Bytes.ofWord 0) _ _ [] [])
    have hroom : ([] : List Handler).length + body.shape.layout.length ≤ blobLimit := by
      cases body.shape <;> decide
    have hzero : Status.ofCode 0 = .success := by decide
    rw [hcursor, read, ends_bind]
    refine ends_readWord _ _ ?_
    rw [andThen_ok, hzero, ← hshape, ends_bind]
    refine (ends_readFields_append _ _ hfit [] hroom List.prefix_rfl []).mono fun r c hr => ?_
    rw [hr.1]
    exact congrArg (fun b => Except.ok (ok b)) (Body.ofFields_fields body)
  | tooSmall required =>
    have hlengths : Lengths.ofList required.toList = required :=
      Lengths.ext (List.take_of_length_le required.length_le)
    have hall := decode_tooSmall o required
    rw [List.take_of_length_le h, hlengths] at hall
    exact hall
  | failed s =>
    obtain ⟨hcode, hsuccess, hbuffer⟩ := h
    have hcursor : (encode (failed s)).cursor = ⟨Bytes.ofWord s.code ++ [], []⟩ := by
      simp [encode, writeWord, status, cursor]
    rw [hcursor, read, ends_bind]
    refine ends_readWord _ _ ?_
    rw [andThen_ok, hcode]
    split
    · exact absurd rfl hsuccess
    · exact absurd rfl hbuffer
    · rfl

end Reply

end AppletGateway
