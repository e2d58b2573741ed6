import AppletGateway.Proofs.Spellings

/-!
# Which replies are read back

A reply is read by what is fixed for the call: the shape of its body and how many lengths it can
have. Whatever the bytes are, what is read is a reply that the call can have, so a reply that
another call has, a status that stands for one of the replies with fields, and a code that is not
read as itself are never read back. All others are; of an answer with too many lengths the first
ones are read.

Results:
* `Reply.possible_of_decode`: what is read is a reply that the call can have.
* `Reply.answers_read_back`: which replies are read back, and as what.
-/

namespace AppletGateway.Reply

open Envelope

/-- No more lengths are read than are asked for. -/
theorem length_readLengths : ∀ (n : Nat) (c : Cursor),
    Ends (readLengths n) c fun r _ => ∀ ws, r = .ok ws → ws.length ≤ n
  | 0, _ => fun ws h => by
    obtain rfl := Except.ok.inj h
    exact Nat.zero_le _
  | n + 1, c => by
    rw [ends_readLengths_succ]
    refine Ends.mono (Q := fun _ _ => True) trivial fun r c' _ => ?_
    cases r with
    | error _ =>
      rintro ws h
      obtain rfl := Except.ok.inj h
      exact Nat.zero_le _
    | ok w =>
      dsimp only
      rw [ends_bind]
      refine (length_readLengths n c').mono fun r _ hr => ?_
      cases r with
      | error _ => exact nofun
      | ok ws =>
        rintro _ h
        obtain rfl := Except.ok.inj h
        exact Nat.succ_le_succ (hr ws rfl)

/-- Fields and a body made of them are carried alike. -/
theorem fitAll_ofFields (s : BodyShape) (fields : Fields s.layout) :
    FitAll (Body.ofFields s fields).shape.layout (Body.ofFields s fields).fields ↔
      FitAll s.layout fields := by
  cases s <;> rfl

/-- What is read as a reply to a call is one that the call can have. -/
theorem possible_of_decode {o : Opcode} {e : Envelope} {reply : Reply}
    (h : decode o e = .ok reply) : reply.Possible o := by
  obtain ⟨c', hread⟩ : ∃ c', Gives (read o) e.cursor reply c' := ⟨_, h, rfl⟩
  rw [read, gives_bind] at hread
  obtain ⟨w, c, -, hread⟩ := hread
  have hcode := Status.code_ofCode w
  split at hread
  · obtain ⟨fields, d, hfields, hend⟩ := gives_bind.mp hread
    obtain ⟨rfl, -⟩ := gives_pure.mp hend
    obtain ⟨form, hform, -⟩ := gives_readFields.mp hfields
    exact ⟨Body.shape_ofFields _ _, (fitAll_ofFields _ _).mpr hform.fitAll⟩
  · obtain ⟨ws, d, hws, hend⟩ := gives_bind.mp hread
    obtain ⟨rfl, -⟩ := gives_pure.mp hend
    have hlen : ws.length ≤ o.row.outputs := length_readLengths _ _ ws hws.1
    exact Nat.le_trans (List.length_take_le' _ _) hlen
  · rename_i hsuccess hbuffer
    obtain ⟨rfl, -⟩ := gives_pure.mp hread
    exact ⟨congrArg Status.ofCode hcode, hsuccess, hbuffer⟩

/-- A status is the whole of a reply if it is the one that some code is read as, and this code is
neither that of success nor that of "too small". -/
theorem possible_failed_iff {o : Opcode} {s : Status} :
    (failed s).Possible o ↔ ∃ c, c ≠ 0 ∧ c ≠ 11 ∧ s = .ofCode c := by
  constructor
  · rintro ⟨hcode, hsuccess, hbuffer⟩
    refine ⟨s.code, fun h => hsuccess ?_, fun h => hbuffer ?_, hcode.symm⟩
    · rw [← hcode, h]
      decide
    · rw [← hcode, h]
      decide
  · rintro ⟨c, hzero, helf, rfl⟩
    have hcode := Status.code_ofCode c
    refine ⟨by rw [hcode], fun h => hzero ?_, fun h => helf ?_⟩
    · rw [← hcode, h]
      rfl
    · rw [← hcode, h]
      rfl

/-- A reply starts with its status. -/
theorem data_encode (reply : Reply) :
    ∃ rest, reply.encode.data = Bytes.ofWord reply.status.code ++ rest := by
  cases reply with
  | ok body =>
    have h := writeFields_append (Bytes.ofWord Status.success.code) body.shape.layout body.fields
      [] []
    rw [List.append_nil] at h
    exact ⟨_, congrArg Envelope.data h⟩
  | tooSmall required =>
    refine ⟨(required.toList.map Bytes.ofWord).flatten, ?_⟩
    simp only [encode, foldl_writeWord]
    rfl
  | failed s => exact ⟨[], (List.append_nil _).symm⟩

/-- For every call: a body is read back exactly if it has the call's shape and an envelope can carry
it, lengths are read up to the number of the call's outputs, and a status is read back exactly if it
is what some code other than 0 and 11 is read as. Every reply starts with its status. -/
theorem answers_read_back (o : Opcode) :
    (∀ body, decode o (encode (ok body)) = .ok (ok body) ↔
      body.shape = o.row.body ∧ FitAll body.shape.layout body.fields) ∧
    (∀ required, decode o (encode (tooSmall required)) =
      .ok (tooSmall (.ofList (required.toList.take o.row.outputs)))) ∧
    (∀ required, decode o (encode (tooSmall required)) = .ok (tooSmall required) ↔
      required.toList.length ≤ o.row.outputs) ∧
    (∀ s, decode o (encode (failed s)) = .ok (failed s) ↔ ∃ c, c ≠ 0 ∧ c ≠ 11 ∧ s = .ofCode c) ∧
    ∀ reply, (encode reply).data.take 4 = Bytes.ofWord reply.status.code := by
  have hback {reply : Reply} : decode o reply.encode = .ok reply ↔ reply.Possible o :=
    ⟨possible_of_decode, decode_encode⟩
  refine ⟨fun _ => hback, decode_tooSmall o, fun _ => hback,
    fun _ => hback.trans possible_failed_iff, fun reply => ?_⟩
  obtain ⟨rest, hdata⟩ := data_encode reply
  rw [hdata]
  exact List.take_left' rfl

end AppletGateway.Reply
