import AppletGateway.Proofs.Dispatching
import AppletGateway.Proofs.Steps

/-!
# Reading what was written

The length of a text has 32 bits in an envelope, so a text of 4 GiB or more is written with a length
that is too small. The reader takes less than was written then, and it notices: a request has no
long fields enough to make up for it, and bytes are left at its end. So a request that concerns
handlers either comes out as it went in, or it is refused.

Results:
* `Request.eq_of_decode_encode`: a request that concerns handlers, if it is read, is the one that
  was written.
* `Request.opcode_of_decode`: any request that is read is one for the same call.
* `Reply.taken_ofStatus`, `Reply.taken_ok`: what a client reads in the replies to such requests.
-/

namespace AppletGateway

namespace Envelope

variable {objects : List Handler}

/-! ## Fields -/

/-- The bytes of a blob with its length and padding. -/
def blobBytes (b : Bytes) : Bytes :=
  Bytes.ofWord (UInt32.ofNat b.length) ++ b ++ List.replicate (padded b.length - b.length) 0

/-- What is left of a field whose length did not fit into a word, at least. -/
def excess : Nat := 4294967292

theorem ends_readBytes {n : Nat} {c : Cursor} {Q : Except EnvelopeError Bytes → Cursor → Prop}
    (hshort : c.rest.length < n → Q (.error .truncated) c)
    (hok : n ≤ c.rest.length → Q (.ok (c.rest.take n)) { c with rest := c.rest.drop n }) :
    Ends (readBytes n) c Q := by
  simp only [readBytes, ends_bind, ends_get, andThen_ok, ends_ite]
  split
  · rename_i h
    exact hshort h
  · rename_i h
    exact hok (Nat.le_of_not_lt h)

theorem ends_readWord (w : UInt32) (tail : Bytes) {Q : Except EnvelopeError UInt32 → Cursor → Prop}
    (h : Q (.ok w) ⟨tail, objects⟩) : Ends readWord ⟨Bytes.ofWord w ++ tail, objects⟩ Q := by
  rw [readWord, ends_bind]
  refine ends_readBytes (fun hlen => ?_) fun _ => ?_
  · simp only [List.length_append, Bytes.length_ofWord] at hlen
    omega
  · have htake : (Bytes.ofWord w ++ tail).take 4 = Bytes.ofWord w := List.take_left' rfl
    have hdrop : (Bytes.ofWord w ++ tail).drop 4 = tail := List.drop_left' rfl
    simp only [htake, hdrop, andThen_ok]
    rw [Bytes.ofWord]
    simp only [Bytes.toWord_ofWord, ends_pure]
    exact h

/-- However the reading ends, it has failed or taken at most `n` bytes. -/
def Costs {α : Type} (n : Nat) (x : Read α) : Prop :=
  ∀ c, Ends x c fun r c' => (∃ e, r = .error e) ∨ c.rest.length ≤ c'.rest.length + n

theorem Costs.bind {α β : Type} {m n : Nat} {x : Read α} {f : α → Read β} (hx : Costs m x)
    (hf : ∀ a, Costs n (f a)) : Costs (m + n) (x >>= f) := by
  intro c
  rw [ends_bind]
  refine (hx c).mono fun r c' h => ?_
  cases r with
  | error e => exact .inl ⟨e, rfl⟩
  | ok a =>
    simp only [andThen_ok]
    refine (hf a c').mono fun r c'' h' => h'.imp_right fun hle => ?_
    have := h.resolve_left (fun ⟨_, h⟩ => nomatch h)
    omega

theorem costs_pure {α : Type} (n : Nat) (a : α) : Costs n (pure a : Read α) :=
  fun _ => .inr (Nat.le_add_right _ _)

theorem costs_throw {α : Type} (n : Nat) (e : EnvelopeError) : Costs n (throw e : Read α) :=
  fun _ => .inl ⟨e, rfl⟩

theorem costs_readBytes (n : Nat) : Costs n (readBytes n) := fun c =>
  ends_readBytes (fun _ => .inl ⟨_, rfl⟩) fun h => .inr <| by
    rw [List.length_drop]
    omega

theorem costs_readWord : Costs 4 readWord := by
  refine Costs.bind (n := 0) (costs_readBytes 4) fun b => ?_
  split
  · exact costs_pure _ _
  · exact costs_throw _ _

theorem padded_le (n : Nat) : padded n ≤ n + 3 := by
  unfold padded
  omega

theorem le_padded (n : Nat) : n ≤ padded n := by
  unfold padded
  omega

/-- A word is not negative as an integer if it is in the lower half of the words. -/
theorem nonneg_iff {w : UInt32} : ¬ w.toInt32 < 0 ↔ w.toNat < 2147483648 := by
  have hint : w.toInt32.toInt =
      if 2 * w.toNat < 2 ^ 32 then (w.toNat : Int) else (w.toNat : Int) - (2 ^ 32 : Nat) :=
    BitVec.toInt_eq_toNat_cond w.toBitVec
  have hlt := w.toNat_lt
  have hzero : (0 : Int32).toInt = 0 := rfl
  rw [Int32.lt_iff_toInt_lt, hint, hzero]
  split <;> omega

theorem toNat_absentMark : absentMark.toNat = 4294967295 := rfl

/-- Reading a blob fails, gives it back, or leaves more than `excess` bytes. -/
theorem ends_readPadded (b tail : Bytes) :
    Ends readPadded ⟨blobBytes b ++ tail, objects⟩ fun r c => (∃ e, r = .error e) ∨
      (r = .ok (some b) ∧ c = ⟨tail, objects⟩) ∨ excess + tail.length ≤ c.rest.length := by
  unfold readPadded blobBytes
  rw [List.append_assoc, List.append_assoc, ends_bind]
  refine ends_readWord _ _ ?_
  have hw : (UInt32.ofNat b.length).toNat = b.length % 4294967296 := UInt32.toNat_ofNat'
  have hle := le_padded b.length
  have hpad := padded_le (UInt32.ofNat b.length).toNat
  have hge := le_padded (UInt32.ofNat b.length).toNat
  generalize UInt32.ofNat b.length = w at hw hpad hge
  simp only [andThen_ok, ends_ite]
  split
  · -- A length that looks like the mark of an absent blob.
    rename_i habsent
    rw [habsent, toNat_absentMark] at hw
    rw [ends_pure]
    refine .inr (.inr ?_)
    simp only [List.length_append, List.length_replicate, excess]
    omega
  · split
    · exact .inl ⟨_, rfl⟩
    · rename_i hsign
      have hlt := nonneg_iff.mp hsign
      simp only [ends_bind, ends_get, andThen_ok, ends_ite]
      split
      · exact .inl ⟨_, rfl⟩
      rename_i hroom
      refine ends_readBytes (fun _ => .inl ⟨_, rfl⟩) fun _ => ?_
      simp only [andThen_ok, ends_bind]
      refine ends_readBytes (fun _ => .inl ⟨_, rfl⟩) fun _ => ?_
      simp only [andThen_ok, ends_pure, List.drop_drop]
      by_cases hsmall : b.length < 4294967296
      · have hlen : w.toNat = b.length := by omega
        refine .inr (.inl ⟨?_, ?_⟩)
        · rw [hlen, List.take_left' rfl]
        · have hall : (b ++ List.replicate (padded b.length - b.length) 0).length =
              b.length + (padded b.length - b.length) := by
            rw [List.length_append, List.length_replicate]
          rw [hlen, ← List.append_assoc, List.drop_left' hall]
      · -- The length has been cut off, and what is read ends before the blob does.
        refine .inr (.inr ?_)
        simp only [List.length_append, List.length_replicate, List.length_drop, excess]
        omega

theorem costs_ite {α : Type} {n : Nat} {p : Prop} [Decidable p] {x y : Read α} (hx : p → Costs n x)
    (hy : ¬ p → Costs n y) : Costs n (if p then x else y) := by
  split
  · exact hx ‹_›
  · exact hy ‹_›

theorem costs_throw_bind {α β : Type} (n : Nat) (e : EnvelopeError) {f : α → Read β} :
    Costs n (throw e >>= f) := fun _ => .inl ⟨e, rfl⟩

theorem costs_get {α : Type} {n : Nat} {f : Cursor → Read α} (hf : ∀ c, Costs n (f c)) :
    Costs n (get >>= f) := by
  intro c
  rw [ends_bind]
  exact hf c c

/-- No field takes more than this. -/
def fieldLimit : Nat := 2147483654

theorem costs_readPadded : Costs fieldLimit readPadded := by
  refine costs_readWord.bind (n := 2147483650) fun w => ?_
  refine costs_ite (fun _ => costs_pure _ _) fun _ => ?_
  refine costs_ite (fun _ => costs_throw_bind _ _) fun hsign => ?_
  refine costs_get fun c => costs_ite (fun _ => costs_throw_bind _ _) fun _ c => ?_
  have hlt := nonneg_iff.mp hsign
  have hpad := padded_le w.toNat
  have hge := le_padded w.toNat
  have hsum := (costs_readBytes w.toNat).bind fun b =>
    (costs_readBytes (padded w.toNat - w.toNat)).bind fun _ => costs_pure 0 (some b)
  refine (hsum c).mono fun r c' h => h.imp_right fun hle => ?_
  omega

theorem Costs.mono {α : Type} {m n : Nat} {x : Read α} (h : Costs m x) (hle : m ≤ n) : Costs n x :=
  fun c => (h c).mono fun _ _ h => h.imp_right fun h => by omega

/-! ## Texts and handlers -/

/-- The bytes of a text field. -/
def textBytes : Option String → Bytes
  | some s => blobBytes (Bytes.ofText s)
  | none => Bytes.ofWord absentMark

/-- Reading a text fails, gives it back, or leaves more than `excess` bytes. -/
theorem ends_readText (s : Option String) (tail : Bytes) :
    Ends readText ⟨textBytes s ++ tail, objects⟩ fun r c => (∃ e, r = .error e) ∨
      (r = .ok s ∧ c = ⟨tail, objects⟩) ∨ excess + tail.length ≤ c.rest.length := by
  rw [readText, ends_bind]
  cases s with
  | none =>
    rw [readPadded, ends_bind]
    refine ends_readWord absentMark tail ?_
    exact .inr (.inl ⟨rfl, rfl⟩)
  | some s =>
    refine (ends_readPadded (Bytes.ofText s) tail).mono fun r c h => ?_
    rcases h with ⟨e, rfl⟩ | ⟨rfl, rfl⟩ | h
    · exact .inl ⟨e, rfl⟩
    · simp only [andThen_ok, Bytes.toText?_ofText]
      exact .inr (.inl ⟨rfl, rfl⟩)
    · rcases r with e | (_ | b)
      · exact .inl ⟨e, rfl⟩
      · exact .inr (.inr h)
      · simp only [andThen_ok]
        cases Bytes.toText? b with
        | none => exact .inl ⟨_, rfl⟩
        | some s => exact .inr (.inr h)

theorem costs_readText : Costs fieldLimit readText := by
  refine Costs.bind (n := 0) costs_readPadded fun b => ?_
  cases b with
  | none => exact costs_pure _ _
  | some b =>
    dsimp only
    cases Bytes.toText? b with
    | none => exact costs_throw _ _
    | some s => exact costs_pure _ _

theorem costs_readHandler : Costs 4 readHandler := by
  refine Costs.bind (n := 0) costs_readWord fun w => ?_
  refine costs_ite (fun _ => costs_pure _ _) fun _ => ?_
  refine costs_ite (fun _ => costs_throw_bind _ _) fun _ => ?_
  refine costs_get fun c => ?_
  cases c.objects[w.toNat]? with
  | none => exact costs_throw _ _
  | some h => exact costs_pure _ _

/-! ## Fields in a row -/

theorem writeField_append (d d' : Bytes) (objects : List Handler) : ∀ (k : Kind) (v : k.Value),
    writeField k v ⟨d ++ d', objects⟩ = ⟨d ++ (writeField k v ⟨d', objects⟩).data,
      (writeField k v ⟨d', objects⟩).objects⟩
  | .int, _ | .word, _ | .text, none | .handler, none | .handler, some _ => by
    simp [writeField, writeInt, writeWord, writeText, writeHandler]
  | .blob, _ | .text, some _ => by simp [writeField, writeText, writeBlob]

/-- Fields are appended to what is there. -/
theorem writeFields_append (d : Bytes) : ∀ (ks : List Kind) (vs : Fields ks) (d' : Bytes)
    (objects : List Handler), writeFields ks vs ⟨d ++ d', objects⟩ =
      ⟨d ++ (writeFields ks vs ⟨d', objects⟩).data, (writeFields ks vs ⟨d', objects⟩).objects⟩
  | [], _, _, _ => rfl
  | k :: ks, (v, vs), d', objects => by
    rw [writeFields, writeFields, writeField_append]
    exact writeFields_append d ks vs _ _

theorem writeText_nil (s : Option String) : writeText s {} = ⟨textBytes s ++ [], []⟩ := by
  cases s with
  | none => rfl
  | some s => simp [writeText, writeBlob, textBytes, blobBytes]

/-- Reading the fields fails, gives them back, or leaves something behind. -/
def Legible (ks : List Kind) (vs : Fields ks) : Prop :=
  Ends (readFields ks) (writeFields ks vs {}).cursor fun r c =>
    (∃ e, r = .error e) ∨ r = .ok vs ∨ c.rest ≠ []

theorem legible_nil : Legible [] () := .inr (.inl rfl)

theorem ends_readFields_word (w : UInt32) :
    Ends (readFields [.word]) ⟨Bytes.ofWord w ++ [], objects⟩ fun r _ => r = .ok (w, ()) := by
  rw [readFields, ends_bind]
  exact ends_readWord w [] rfl

theorem legible_word (w : UInt32) : Legible [.word] (w, ()) := by
  have hstart : (writeFields [.word] (w, ()) {}).cursor = ⟨Bytes.ofWord w ++ [], []⟩ := by
    simp [writeFields, writeField, writeWord, cursor]
  rw [Legible, hstart]
  exact (ends_readFields_word w).mono fun _ _ h => .inr (.inl h)

theorem legible_handler (h : Option Handler) : Legible [.handler] (h, ()) := by
  rw [Legible, readFields, ends_bind]
  show Ends readHandler _ _
  rw [readHandler, ends_bind]
  cases h with
  | none => exact ends_readWord absentMark [] (.inr (.inl rfl))
  | some h => exact ends_readWord 0 [] (.inr (.inl rfl))

theorem costs_cons {m n : Nat} {k : Kind} {ks : List Kind} (hk : Costs m (readField k))
    (hks : Costs n (readFields ks)) : Costs (m + n) (readFields (k :: ks)) :=
  hk.bind fun _ => hks.bind (n := 0) fun _ => costs_pure _ _

/-- A text in front of fields that cannot make up for what is left of it. -/
theorem Legible.text {ks : List Kind} {vs : Fields ks} (h : Legible ks vs) {n : Nat}
    (hcost : Costs n (readFields ks)) (hn : n < excess) (s : Option String) :
    Legible (.text :: ks) (s, vs) := by
  have hstart : (writeFields (.text :: ks) (s, vs) {}).cursor =
      ⟨textBytes s ++ (writeFields ks vs {}).data, (writeFields ks vs {}).objects⟩ := by
    rw [writeFields, writeField, writeText_nil, writeFields_append]
    rfl
  rw [Legible, hstart, readFields, ends_bind]
  refine (ends_readText s _).mono fun r c hr => ?_
  rcases hr with ⟨e, rfl⟩ | ⟨rfl, rfl⟩ | hleft
  · exact .inl ⟨e, rfl⟩
  · rw [andThen_ok, ends_bind]
    refine h.mono fun r c hr => ?_
    rcases r with e | vs'
    · exact .inl ⟨e, rfl⟩
    · refine .inr (hr.resolve_left (fun ⟨_, h⟩ => nomatch h) |>.imp_left fun h => ?_)
      obtain rfl := Except.ok.inj h
      rfl
  · cases r with
    | error e => exact .inl ⟨e, rfl⟩
    | ok s' =>
      rw [andThen_ok, ends_bind]
      refine (hcost c).mono fun r c' hr => ?_
      rcases r with e | vs'
      · exact .inl ⟨e, rfl⟩
      · refine .inr (.inr fun hnil => ?_)
        have hnil : c'.rest = [] := hnil
        have := hr.resolve_left (fun ⟨_, h⟩ => nomatch h)
        rw [hnil, List.length_nil] at this
        omega

end Envelope

/-! ## Requests -/

namespace Request

open Envelope

theorem costs_readFields {o : Opcode} (h : o.binds) :
    Costs (fieldLimit + 4) (readFields o.layout) := by
  have hnone : Costs 0 (readFields []) := costs_pure _ _
  have htext : Costs (fieldLimit + 0) (readFields [.text]) := costs_cons costs_readText hnone
  have hboth : Costs (fieldLimit + (4 + 0)) (readFields [.text, .handler]) :=
    costs_cons costs_readText (costs_cons costs_readHandler hnone)
  have hword : Costs (4 + 0) (readFields [.word]) := costs_cons costs_readWord hnone
  cases o with
  | deinit => exact hnone.mono (by decide)
  | uninstall | uninstallOtps | unregisterEvents => exact htext.mono (by decide)
  | registerEvents | startInstance => exact hboth.mono (by decide)
  | stopInstance => exact hword.mono (by decide)
  | _ => cases h

theorem legible_fields {r : Request} (h : r.opcode.binds) : Legible r.opcode.layout r.fields := by
  have htext (app : Option String) : Legible [.text] (app, ()) :=
    legible_nil.text (costs_pure 0 ()) (by decide) app
  have hboth (app : Option String) (handler : Option Handler) :
      Legible [.text, .handler] (app, handler, ()) :=
    (legible_handler handler).text (costs_cons costs_readHandler (costs_pure 0 ())) (by decide) app
  cases r with
  | deinit => exact legible_nil
  | uninstall app => exact htext app
  | uninstallOtps app => exact htext app
  | registerEvents app handler => exact hboth app handler
  | unregisterEvents app => exact htext app
  | startInstance app handler => exact hboth app handler
  | stopInstance token => exact legible_word token
  | _ => cases h

theorem ends_readInterface {objects : List Handler} (written descriptor : String) (tail : Bytes) :
    Ends (readInterface descriptor) ⟨textBytes (some written) ++ tail, objects⟩ fun r c =>
      (∃ e, r = .error e) ∨ c = ⟨tail, objects⟩ ∨ excess + tail.length ≤ c.rest.length := by
  rw [readInterface, ends_bind]
  refine (ends_readText (some written) tail).mono fun r c h => ?_
  rcases r with e | (_ | s)
  · exact .inl ⟨e, rfl⟩
  · exact .inl ⟨_, rfl⟩
  · rw [andThen_ok, ends_ite]
    split
    · exact .inr ((h.resolve_left fun ⟨_, h⟩ => nomatch h).imp_left And.right)
    · exact .inl ⟨_, rfl⟩

/-- What is left to do once the fields are read: nothing may be behind them. -/
theorem ends_finish {o : Opcode} {fields : Fields o.layout} {c : Cursor} {P : Request → Prop}
    (h : c.rest = [] → P (ofFields o fields)) :
    Ends (do
      let left := (← get).rest.length
      if left ≠ 0 then throw (.trailing left)
      return ofFields o fields : Read Request) c fun r _ => ∀ q, r = .ok q → P q := by
  simp only [ends_bind, ends_get, andThen_ok, ends_ite]
  split
  · exact nofun
  · rename_i hleft
    rintro _ hq
    rw [← Except.ok.inj hq]
    exact h (List.eq_nil_of_length_eq_zero (Classical.not_not.mp hleft))

/-- A request that can change which handlers are bound, if it is read, is the one that was
written. -/
theorem eq_of_decode_encode {r q : Request} (h : r.opcode.binds) {written descriptor : String}
    (hq : decode r.opcode.code descriptor (r.encode written) = .ok q) : q = r := by
  have hcursor : (r.encode written).cursor = ⟨textBytes (some written) ++
      (writeFields r.opcode.layout r.fields {}).data,
      (writeFields r.opcode.layout r.fields {}).objects⟩ := by
    rw [encode, writeText_nil, writeFields_append]
    rfl
  suffices hread : Ends (read r.opcode.code descriptor) (r.encode written).cursor
      fun res _ => ∀ q, res = .ok q → q = r from hread q hq
  rw [hcursor, read, ends_bind]
  refine (ends_readInterface written descriptor _).mono fun res c hi => ?_
  cases res with
  | error e => exact nofun
  | ok _ =>
    rw [andThen_ok, Opcode.ofCode?_code, ends_bind]
    rcases hi with ⟨_, hi⟩ | rfl | hleft
    · cases hi
    · refine (legible_fields h).mono fun res c hf => ?_
      rcases res with e | fields
      · exact nofun
      · refine ends_finish (P := (· = r)) fun hnil => ?_
        rcases hf with ⟨_, hf⟩ | hf | hf
        · cases hf
        · obtain rfl := Except.ok.inj hf
          exact ofFields_fields r
        · exact absurd hnil hf
    · refine (costs_readFields h c).mono fun res c' hf => ?_
      rcases res with e | fields
      · exact nofun
      · refine ends_finish (P := (· = r)) fun hnil => ?_
        have hle := hf.resolve_left fun ⟨_, h⟩ => nomatch h
        rw [hnil, List.length_nil] at hle
        simp only [excess, fieldLimit] at hleft hle
        omega

/-- A request that is read is one for the call with the number. -/
theorem opcode_of_decode {code : UInt32} {descriptor : String} {e : Envelope} {q : Request}
    (hq : decode code descriptor e = .ok q) : Opcode.ofCode? code = some q.opcode := by
  suffices hread : Ends (read code descriptor) e.cursor
      fun res _ => ∀ q, res = .ok q → Opcode.ofCode? code = some q.opcode from hread q hq
  rw [read, ends_bind]
  refine Ends.mono (Q := fun _ _ => True) trivial fun res c _ => ?_
  cases res with
  | error e => exact nofun
  | ok _ =>
    rw [andThen_ok]
    cases Opcode.ofCode? code with
    | none => exact nofun
    | some o =>
      rw [ends_bind]
      refine Ends.mono (Q := fun _ _ => True) trivial fun res c _ => ?_
      rcases res with e | fields
      · exact nofun
      · exact ends_finish (P := fun q => some o = some q.opcode) fun _ => by rw [opcode_ofFields]

end Request

/-! ## Replies -/

namespace Reply

open Envelope

/-- What a reader makes of a reply to a call without negotiated outputs. -/
def taken : Except EnvelopeError Reply → Except Status Body
  | .ok (.ok body) => .ok body
  | .ok (.tooSmall _) => .error .insufficientBuffer
  | .ok (.failed s) => .error s
  | .error _ => .error .internalError

theorem encode_ofStatus (e : Status) : (ofStatus e).encode = ⟨Bytes.ofWord e.code ++ [], []⟩ := by
  cases e <;> rfl

/-- A reply that reports a status is taken for a success if that status has the code of success and
the reply needs no fields, and otherwise for a failure with the same code or an internal one. -/
theorem taken_ofStatus (o : Opcode) (e : Status) :
    match taken (decode o (ofStatus e).encode) with
    | .ok body => body = .empty ∧ e.code = 0
    | .error s => s = .ofCode e.code ∨ s = .internalError := by
  suffices h : Ends (read o) (ofStatus e).encode.cursor fun r _ => match taken r with
      | .ok body => body = .empty ∧ e.code = 0
      | .error s => s = .ofCode e.code ∨ s = .internalError from h
  have hcode := Status.code_ofCode e.code
  rw [encode_ofStatus, read, ends_bind]
  refine ends_readWord _ _ ?_
  rw [andThen_ok]
  split
  · rename_i hs
    rw [hs] at hcode
    rw [ends_bind]
    cases o.row.body with
    | empty => exact ⟨rfl, hcode.symm⟩
    | _ => exact .inr rfl
  · rename_i hs
    rw [ends_bind]
    refine Ends.mono (Q := fun _ _ => True) trivial fun r c _ => ?_
    cases r with
    | error _ => exact .inr rfl
    | ok _ => exact .inl hs.symm
  · exact .inl rfl

/-- A reply with at most one word is taken for what it carries. -/
theorem taken_ok {o : Opcode} (ho : o.row.body = .empty ∨ o.row.body = .value) {body : Body}
    (hbody : body.shape = o.row.body) : taken (decode o (encode (.ok body))) = .ok body := by
  suffices h : Ends (read o) (encode (.ok body)).cursor fun r _ => taken r = .ok body from h
  have hzero : Status.ofCode 0 = .success := by decide
  rcases ho with ho | ho
  · obtain rfl : body = .empty := by
      cases body <;> first | rfl | cases hbody.trans ho
    have hcursor : (encode (.ok .empty)).cursor = ⟨Bytes.ofWord 0 ++ [], []⟩ := rfl
    rw [hcursor, read, ends_bind]
    refine ends_readWord _ _ ?_
    simp only [andThen_ok, hzero]
    rw [ho]
    rfl
  · obtain ⟨v, rfl⟩ : ∃ v, body = .value v := by
      cases body <;> first | exact ⟨_, rfl⟩ | cases hbody.trans ho
    have hcursor : (encode (.ok (.value v))).cursor =
        ⟨Bytes.ofWord 0 ++ (Bytes.ofWord v ++ []), []⟩ := rfl
    rw [hcursor, read, ends_bind]
    refine ends_readWord _ _ ?_
    simp only [andThen_ok, hzero]
    rw [ho, ends_bind]
    refine Ends.mono (ends_readFields_word v) fun r c h => ?_
    subst h
    rfl

end Reply

end AppletGateway
