import AppletGateway.Link
import AppletGateway.Proofs.Attended
import AppletGateway.Proofs.Steps

/-!
# What the link makes of what it receives

While the device hands over frames, the link reads their payloads in order: it hands the events on,
stops at the first reply, and fails at a payload that is no message. What it ends with is decided by
the payloads alone, `Link.answerOf`, and not by the pieces in which they arrive.

Results:
* `Link.ends_awaitReply`: waiting for a reply ends as the payloads say.
* `Link.ends_drainEvents`: once the events are handed on, nothing is left to be read.
-/

namespace AppletGateway.Link

open AppletGateway.Frame (Frames Decoder)
open Applet (Inbound)

variable {l l' : Link Attended} {ps : List Bytes}

/-- The link `l'` is `l` after some of what the device had to hand over was received and read. -/
def Reads (l l' : Link Attended) : Prop :=
  ∃ c d es, l' = { l with
      transport := { l.transport with channel := c }, decoder := d, emitted := es } ∧
    l.transport.channel.Drains c

theorem Reads.refl (l : Link Attended) : Reads l l :=
  ⟨l.transport.channel, l.decoder, l.emitted, rfl, .refl _⟩

theorem Reads.trans {l'' : Link Attended} (h : Reads l l') (h' : Reads l' l'') : Reads l l'' := by
  obtain ⟨_, _, _, rfl, hd⟩ := h
  obtain ⟨c, d, es, rfl, hd'⟩ := h'
  exact ⟨c, d, es, rfl, hd.trans hd'⟩

/-- The payloads `ps` are what the link has still to read: its decoder has read a part of their
frames, and the rest is to come. -/
structure Reading (ps : List Bytes) (l : Link Attended) : Prop where
  connected : l.transport.channel.connected = true
  room : 0 < l.maxMessage
  valid : l.decoder.Valid
  frames : Frames ps (l.decoder.stream ++ l.transport.channel.toCome)

/-- With no payload left there is no byte left. -/
theorem Reading.eq_nil (h : Reading [] l) :
    l.decoder = {} ∧ l.transport.channel.toCome = [] := by
  obtain ⟨hs, hc⟩ := List.append_eq_nil_iff.mp h.frames.eq_nil
  exact ⟨Decoder.eq_new_of_stream hs, hc⟩

/-! ## One message -/

/-- What a payload is read as. -/
def inboundOf (p : Bytes) : Except LinkError (Option Inbound) :=
  match Packed.read? p with
  | some inbound => .ok (some inbound)
  | none => .error .malformed

/-- The next message is the first of the payloads, if it has arrived. -/
theorem ends_nextInbound (h : Reading ps l) :
    Ends nextInbound l fun r l' => Reads l l' ∧ l'.transport = l.transport ∧
      ((r = .ok none ∧ Reading ps l' ∧ (l.transport.channel.toCome = [] → ps = [])) ∨
        ∃ p rest, ps = p :: rest ∧ r = inboundOf p ∧ Reading rest l' ∧
          l'.decoder.buffered < l.decoder.buffered) := by
  have hreads (d : Decoder) : Reads l { l with decoder := d } :=
    ⟨l.transport.channel, d, l.emitted, rfl, .refl _⟩
  simp only [nextInbound, ends_bind, ends_get, andThen_ok, ends_set]
  rcases Decoder.next_of_frames h.valid h.frames with
    ⟨d, hn, hv, hs, hnil⟩ | ⟨p, rest, d, rfl, hn, hv, hf⟩
  · rw [hn]
    refine ⟨hreads d, rfl, .inl ⟨rfl, ⟨h.connected, h.room, hv, ?_⟩, hnil⟩⟩
    show Frames ps (d.stream ++ _)
    rw [hs]
    exact h.frames
  · have hlt := Decoder.buffered_lt_of_next h.valid hn
    rw [hn]
    have hrest : Reading rest { l with decoder := d } := ⟨h.connected, h.room, hv, hf⟩
    have hof := inboundOf.eq_def p
    dsimp only
    cases hp : (Packed.read? p : Option Inbound) with
    | none =>
      rw [hp] at hof
      exact ⟨hreads d, rfl, .inr ⟨p, rest, rfl, hof.symm, hrest, hlt⟩⟩
    | some inbound =>
      rw [hp] at hof
      exact ⟨hreads d, rfl, .inr ⟨p, rest, rfl, hof.symm, hrest, hlt⟩⟩

/-- A received message takes at least one byte of those to come; if there is none, receiving
fails. -/
theorem ends_receiveMessage (h : Reading ps l) :
    Ends receiveMessage l fun r l' => Reads l l' ∧ Reading ps l' ∧
      ((r = .error .transport ∧ l.transport.channel.toCome = []) ∨
        (r = .ok () ∧ l'.transport.channel.toCome.length < l.transport.channel.toCome.length)) := by
  obtain ⟨c, hd, ⟨hnil, hr, hc⟩ | ⟨b, hb, hlen, hr, hc⟩⟩ :=
    Channel.receive_cases h.connected h.room
  all_goals
    have hconn := hd.connected.trans h.connected
    have htrans : Transport.receive l.maxMessage l.transport =
        (((l.transport.channel.receive l.maxMessage).1.toOption).map Received.ofData,
          { l.transport with channel := (l.transport.channel.receive l.maxMessage).2 }) := rfl
    simp only [receiveMessage, ends_bind, ends_get, andThen_ok, ends_set, htrans, hr]
  · refine ⟨⟨c, l.decoder, l.emitted, rfl, hd⟩, ⟨hconn, h.room, h.valid, ?_⟩, .inl ⟨rfl, hnil⟩⟩
    have := h.frames
    rw [hnil] at this
    show Frames ps (l.decoder.stream ++ c.toCome)
    rw [hc]
    exact this
  · have hpos : b.length ≠ 0 := fun h0 => hb (List.length_eq_zero_iff.mp h0)
    have hresize : Bytes.resize (min b.length l.maxMessage) b = b := by
      rw [Nat.min_eq_left hlen]
      simp [Bytes.resize]
    simp only [Except.toOption, Option.map_some, Received.ofData, if_neg hpos, ends_modify,
      hresize]
    refine ⟨⟨c, l.decoder.feed b, l.emitted, rfl, hd⟩,
      ⟨hconn, h.room, h.valid.feed b, ?_⟩, .inr ⟨trivial, ?_⟩⟩
    · show Frames ps ((l.decoder.feed b).stream ++ c.toCome)
      rw [Decoder.stream_feed, List.append_assoc, ← hc]
      exact h.frames
    · show c.toCome.length < _
      rw [hc, List.length_append]
      omega

/-- Handing an event on leaves what is to be read as it is. -/
theorem ends_emit {Q : Except LinkError Unit → Link Attended → Prop} (e : Applet.Event)
    (h : Reading ps l)
    (hQ : ∀ l', Reads l l' → Reading ps l' → l'.transport = l.transport →
      l'.decoder = l.decoder → Q (.ok ()) l') :
    Ends (emit e) l Q :=
  hQ _ ⟨l.transport.channel, l.decoder, l.emitted ++ [e], rfl, .refl _⟩
    ⟨h.connected, h.room, h.valid, h.frames⟩ rfl rfl

/-! ## Waiting for a reply -/

/-- What waiting for a reply ends with if the payloads `ps` are handed over, and the payloads behind
the reply. -/
def answerOf : (ps : List Bytes) → Except LinkError Applet.Reply × List Bytes
  | [] => (.error .transport, [])
  | p :: ps =>
    match (Packed.read? p : Option Inbound) with
    | some (.reply r) => (.ok r, ps)
    | some (.event _) => answerOf ps
    | none => (.error .malformed, ps)

/-- The reply among the bytes received is the one that the payloads say, if it has arrived. -/
theorem ends_bufferedReply {limit : Nat} (h : Reading ps l) (hl : l.decoder.buffered < limit) :
    Ends (bufferedReply limit) l fun r l' => Reads l l' ∧ l'.transport = l.transport ∧
      ∃ rest, Reading rest l' ∧
        ((r = .ok none ∧ answerOf rest = answerOf ps ∧
            (l.transport.channel.toCome = [] → rest = [])) ∨
          (∃ q, r = .ok (some q) ∧ answerOf ps = (.ok q, rest)) ∨
          ∃ e, r = .error e ∧ (answerOf ps).1 = .error e) := by
  induction limit generalizing l ps with
  | zero => omega
  | succ limit ih =>
    simp only [bufferedReply, ends_bind]
    refine (ends_nextInbound h).mono fun r l' => ?_
    rintro ⟨hreads, htrans, ⟨rfl, hrest, hnil⟩ | ⟨p, rest, rfl, rfl, hrest, hlt⟩⟩
    · exact ⟨hreads, htrans, ps, hrest, .inl ⟨rfl, rfl, hnil⟩⟩
    · cases hp : (Packed.read? p : Option Inbound) with
      | none =>
        simp only [inboundOf, hp, andThen_error]
        exact ⟨hreads, htrans, rest, hrest, .inr (.inr ⟨.malformed, rfl, by simp [answerOf, hp]⟩)⟩
      | some inbound =>
        simp only [inboundOf, hp, andThen_ok]
        cases inbound with
        | reply q =>
          exact ⟨hreads, htrans, rest, hrest, .inr (.inl ⟨q, rfl, by simp [answerOf, hp]⟩)⟩
        | event e =>
          have hans : answerOf (p :: rest) = answerOf rest := by simp [answerOf, hp]
          simp only [ends_bind]
          refine ends_emit e hrest fun l'' hreads' hrest' htrans' hdec => ?_
          simp only [andThen_ok]
          refine (ih hrest' (by rw [hdec]; omega)).mono fun r l''' => ?_
          rintro ⟨hreads'', htrans'', rest', hr, hcases⟩
          rw [htrans', htrans] at hcases htrans''
          refine ⟨(hreads.trans hreads').trans hreads'', htrans'', rest', hr, ?_⟩
          rw [hans]
          exact hcases

/-- Waiting for a reply ends as the payloads say, if it is not given up too early. -/
theorem ends_awaitReply {limit : Nat} (h : Reading ps l)
    (hl : l.transport.channel.toCome.length < limit) :
    Ends (awaitReply limit) l fun r l' => Reads l l' ∧ r = (answerOf ps).1 ∧
      ∀ q, r = .ok q → Reading (answerOf ps).2 l' := by
  induction limit generalizing l ps with
  | zero => omega
  | succ limit ih =>
    simp only [awaitReply, ends_bind, ends_get, andThen_ok]
    refine (ends_bufferedReply h (Nat.lt_succ_self _)).mono fun r l' => ?_
    rintro ⟨hreads, htrans, rest, hrest, ⟨rfl, hans, hnil⟩ | ⟨q, rfl, hans⟩ | ⟨e, rfl, hans⟩⟩
    · -- Every message received makes what is to come shorter, so the limit is not reached.
      simp only [andThen_ok, ends_bind]
      rw [← htrans] at hl hnil
      refine (ends_receiveMessage hrest).mono fun r l'' => ?_
      rintro ⟨hreads', hrest', ⟨rfl, hempty⟩ | ⟨rfl, hlt⟩⟩
      · obtain rfl := hnil hempty
        rw [← hans]
        exact ⟨hreads.trans hreads', rfl, nofun⟩
      · simp only [andThen_ok]
        refine (ih hrest' (by omega)).mono fun r l''' => ?_
        rintro ⟨hreads'', hr, hq⟩
        rw [hans] at hr hq
        exact ⟨(hreads.trans hreads').trans hreads'', hr, hq⟩
    · simp only [andThen_ok, ends_pure]
      rw [hans]
      exact ⟨hreads, rfl, fun _ _ => hrest⟩
    · simp only [andThen_error]
      exact ⟨hreads, hans.symm, nofun⟩

/-! ## Handing events on -/

/-- After the events among the bytes received are handed on, a frame that has not arrived as a whole
is all that can be left of these. -/
theorem ends_routeBuffered {limit count : Nat} (h : Reading ps l)
    (hl : l.decoder.buffered < limit) :
    Ends (routeBuffered limit count) l fun r l' => Reads l l' ∧ l'.transport = l.transport ∧
      ∀ n, r = .ok n → ∃ rest, Reading rest l' ∧
        (l.transport.channel.toCome = [] → rest = []) := by
  induction limit generalizing l ps count with
  | zero => omega
  | succ limit ih =>
    simp only [routeBuffered, ends_bind]
    refine (ends_nextInbound h).mono fun r l' => ?_
    rintro ⟨hreads, htrans, ⟨rfl, hrest, hnil⟩ | ⟨p, rest, rfl, rfl, hrest, hlt⟩⟩
    · exact ⟨hreads, htrans, fun _ _ => ⟨ps, hrest, hnil⟩⟩
    · cases hp : (Packed.read? p : Option Inbound) with
      | none =>
        simp only [inboundOf, hp, andThen_error]
        exact ⟨hreads, htrans, nofun⟩
      | some inbound =>
        simp only [inboundOf, hp, andThen_ok]
        cases inbound with
        | reply q =>
          -- A reply nobody waits for is skipped.
          refine (ih hrest (by omega)).mono fun r l'' => ?_
          rintro ⟨hreads', htrans', hn⟩
          rw [htrans] at hn htrans'
          exact ⟨hreads.trans hreads', htrans', hn⟩
        | event e =>
          simp only [ends_bind]
          refine ends_emit e hrest fun l'' hreads' hrest' htrans' hdec => ?_
          simp only [andThen_ok]
          refine (ih hrest' (by rw [hdec]; omega)).mono fun r l''' => ?_
          rintro ⟨hreads'', htrans'', hn⟩
          rw [htrans', htrans] at hn htrans''
          exact ⟨(hreads.trans hreads').trans hreads'', htrans'', hn⟩

/-- Once the events are handed on, nothing is left to be read. -/
theorem ends_drainEvents {limit count : Nat} (h : Reading ps l) :
    Ends (drainEvents limit count) l fun r l' => Reads l l' ∧ ∀ n, r = .ok n → Reading [] l' := by
  induction limit generalizing l ps count with
  | zero => exact ⟨.refl l, nofun⟩
  | succ limit ih =>
    simp only [drainEvents, ends_bind, ends_get, andThen_ok]
    refine (ends_routeBuffered h (Nat.lt_succ_self _)).mono fun r l' => ?_
    rintro ⟨hreads, htrans, hn⟩
    cases r with
    | error e => exact ⟨hreads, nofun⟩
    | ok count =>
      obtain ⟨rest, hrest, hnil⟩ := hn count rfl
      simp only [andThen_ok, ends_bind, ends_get, ends_ite]
      split
      · refine (ends_receiveMessage hrest).mono fun r l'' => ?_
        rintro ⟨hreads', hrest', ⟨rfl, _⟩ | ⟨rfl, _⟩⟩
        · exact ⟨hreads.trans hreads', nofun⟩
        · simp only [andThen_ok]
          refine (ih hrest').mono fun r l''' => ?_
          rintro ⟨hreads'', hn'⟩
          exact ⟨(hreads.trans hreads').trans hreads'', hn'⟩
      · rename_i havail
        have hcome : l.transport.channel.toCome = [] := by
          rw [← htrans]
          exact Channel.toCome_of_not_available hrest.connected havail
        obtain rfl := hnil hcome
        exact ⟨hreads, fun _ _ => hrest⟩

end AppletGateway.Link
