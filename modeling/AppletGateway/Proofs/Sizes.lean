import AppletGateway.Proofs.Offers
import AppletGateway.Proofs.Packing

/-!
# The size of what a reply carries

A reply comes in a frame, and it carries no more bytes than the frame does. So however long a byte
string the co-processor claims to send, the length of one that has been read is a 32-bit word.

Results:
* `Packed.size_le_of_read`: a reply carries no more bytes than the message that it is read from.
* `Frame.Decoder.Valid.next`: no payload that is given out is longer than a frame holds.
* `Link.ends_exchange_size`: no reply to a request carries more bytes than a frame holds.
-/

namespace AppletGateway

/-- The number of bytes that a reply carries in its outputs. -/
def Applet.Reply.size : Applet.Reply → Nat
  | data d => d.length
  | otp password token => password.length + token.length
  | _ => 0

namespace Packed

open Applet (Inbound)

theorem length_le_pack_bytes (b : Bytes) : b.length ≤ (pack b).length := Lawful.longest_le b

/-- The packed form of a reply is no shorter than what the reply carries. -/
theorem size_le_length_pack (r : Applet.Reply) : r.size ≤ (pack r).length := by
  cases r with
  | data d =>
    have := length_le_pack_bytes d
    delta Applet.instPackedReply
    dsimp only [Applet.Reply.size]
    rw [List.length_append]
    omega
  | otp password token =>
    have := length_le_pack_bytes password
    have := length_le_pack_bytes token
    delta Applet.instPackedReply
    dsimp only [Applet.Reply.size]
    simp only [List.length_append]
    omega
  | done | handle _ | value _ | tooSmall _ | failed _ => exact Nat.zero_le _

/-- A reply carries no more bytes than the message that it is read from has. -/
theorem size_le_of_read {payload : Bytes} {reply : Applet.Reply}
    (h : read? payload = some (Inbound.reply reply)) : reply.size ≤ payload.length := by
  obtain ⟨⟨inbound, rest⟩, hread, hsame⟩ := Option.map_eq_some_iff.mp h
  subst hsame
  obtain ⟨used, rfl, hused⟩ := Lawful.consumes payload _ rest hread
  have hsize := size_le_length_pack reply
  have hpack : (pack (Inbound.reply reply)).length = (packTag 0).length + (pack reply).length :=
    List.length_append
  rw [List.length_append]
  dsimp only at hused
  omega

end Packed

/-! ## Frames -/

namespace Frame.Decoder

/-- What a decoder with good headers gives out is no longer than a frame holds, and its headers stay
good. -/
theorem Valid.next {d : Decoder} (h : d.Valid) :
    d.next.2.Valid ∧ ∀ p, d.next.1 = .ok (some p) → p.length ≤ maxPayload := by
  -- What remains of a header and the bytes behind it.
  have hpayload (n : Nat) (b : Bytes) (hpos : 1 ≤ n) (hmax : n ≤ maxPayload) :
      (payload n b).2.Valid ∧ ∀ p, (payload n b).1 = some p → p.length ≤ maxPayload := by
    unfold payload
    split
    · refine ⟨fun m hm => ?_, nofun⟩
      obtain rfl := Option.some.inj hm
      exact ⟨hpos, hmax⟩
    · refine ⟨valid_new _, fun p hsome => ?_⟩
      obtain rfl := Option.some.inj hsome
      exact Nat.le_trans (List.length_take_le n b) hmax
  rcases d with ⟨_ | n, pending⟩
  · match pending with
    | [] | [_] | [_, _] | [_, _, _] => exact ⟨valid_new _, nofun⟩
    | a :: b :: c :: e :: rest =>
      rw [Decoder.next]
      dsimp only
      split
      · exact ⟨valid_new _, nofun⟩
      · have h := hpayload (Bytes.toWord a b c e).toNat rest (by omega) (by omega)
        exact ⟨h.1, fun p hp => h.2 p (Except.ok.inj hp)⟩
  · have h := hpayload n pending (h n rfl).1 (h n rfl).2
    exact ⟨h.1, fun p hp => h.2 p (Except.ok.inj hp)⟩

end Frame.Decoder

/-! ## The link -/

namespace Link

variable {τ : Type} [Transport τ] {l : Link τ}

/-- The headers that the decoder has taken off are good ones. -/
theorem stable_valid : Stable fun l : Link τ => l.decoder.Valid where
  next _ h := h.next.1
  feed _ b h := h.feed b
  emitted _ _ h := h
  send _ _ h := h
  receive _ _ h := h
  closed _ _ := Frame.Decoder.valid_new []
  opened l h := by
    simp only [openChannel, StateT.run]
    split
    · exact Frame.Decoder.valid_new []
    · exact h

omit [Transport τ] in
theorem ends_nextInbound_size (h : l.decoder.Valid) : Ends nextInbound l fun r _ =>
    ∀ reply, r = .ok (some (.reply reply)) → reply.size ≤ Frame.maxPayload := by
  simp only [nextInbound, ends_bind, ends_get, andThen_ok, ends_set]
  cases hframe : l.decoder.next.1 with
  | error e => rintro _ ⟨⟩
  | ok frame =>
    cases frame with
    | none => rintro _ ⟨⟩
    | some payload =>
      dsimp only
      cases hread : (Packed.read? payload : Option Applet.Inbound) with
      | none => rintro _ ⟨⟩
      | some inbound =>
        intro reply hreply
        obtain rfl := Option.some.inj (Except.ok.inj hreply)
        exact Nat.le_trans (Packed.size_le_of_read hread) (h.next.2 payload hframe)

theorem ends_bufferedReply_size (limit : Nat) (h : l.decoder.Valid) :
    Ends (bufferedReply limit) l fun r _ =>
      ∀ reply, r = .ok (some reply) → reply.size ≤ Frame.maxPayload := by
  induction limit generalizing l with
  | zero => rintro _ ⟨⟩
  | succ limit ih =>
    rw [bufferedReply, ends_bind]
    refine ((stable_valid.nextInbound l h).and (ends_nextInbound_size h)).mono fun r l' hnext => ?_
    obtain ⟨hvalid, hsize⟩ := hnext
    rcases r with e | (_ | (reply | event))
    · rintro _ ⟨⟩
    · rintro _ ⟨⟩
    · intro reply' hreply
      obtain rfl := Option.some.inj (Except.ok.inj hreply)
      exact hsize reply rfl
    · exact ih (l := { l' with emitted := l'.emitted ++ [event] }) hvalid

theorem ends_awaitReply_size (limit : Nat) (h : l.decoder.Valid) :
    Ends (awaitReply limit) l fun r _ =>
      ∀ reply, r = .ok reply → reply.size ≤ Frame.maxPayload := by
  induction limit generalizing l with
  | zero => rintro _ ⟨⟩
  | succ limit ih =>
    rw [awaitReply, ends_bind, ends_get, andThen_ok, ends_bind]
    refine ((stable_valid.bufferedReply _ l h).and (ends_bufferedReply_size _ h)).mono
      fun r l' hbuffered => ?_
    obtain ⟨hvalid, hsize⟩ := hbuffered
    rcases r with e | (_ | reply)
    · rintro _ ⟨⟩
    · rw [andThen_ok, ends_bind]
      refine (stable_valid.receiveMessage l' hvalid).mono fun r l'' hvalid' => ?_
      cases r with
      | error e => rintro _ ⟨⟩
      | ok _ => exact ih hvalid'
    · intro reply' hreply
      obtain rfl := Except.ok.inj hreply
      exact hsize reply rfl

/-- No reply to a request carries more bytes than a frame holds. -/
theorem ends_exchange_size (h : l.decoder.Valid) (q : Applet.Request) :
    Ends (exchange q) l fun r _ => ∀ reply, r = .ok reply → reply.size ≤ Frame.maxPayload := by
  rw [exchange, ends_bind, ends_get, andThen_ok]
  dsimp only
  split
  · rintro _ ⟨⟩
  · cases Frame.encode (Packed.pack q) with
    | none => rintro _ ⟨⟩
    | some frame =>
      dsimp only
      rw [ends_orReset]
      have htrip : Ends (roundTrip frame) l fun r _ =>
          ∀ reply, r = .ok reply → reply.size ≤ Frame.maxPayload := by
        rw [roundTrip, ends_bind]
        refine (stable_valid.sendFrame frame l h).mono fun r l' hvalid => ?_
        cases r with
        | error e => rintro _ ⟨⟩
        | ok _ => exact ends_awaitReply_size _ hvalid
      refine htrip.mono fun r l' hsize => ?_
      cases r with
      | error e => rintro _ ⟨⟩
      | ok reply => exact hsize

end Link

end AppletGateway
