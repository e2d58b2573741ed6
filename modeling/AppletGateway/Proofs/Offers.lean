import AppletGateway.Proofs.Resets
import AppletGateway.Proofs.Streams

/-!
# What is offered to a channel

The bytes offered to a channel are those of the calls that send. No step of the link takes any back.
An exchange offers some if the link is connected and the request fits into a frame; otherwise it
does nothing.

Results:
* `Link.Listens.awaitReply`, `Link.Listens.drainEvents`: a property of links that is kept by all
  that neither sends nor connects is kept by waiting for a reply and by handing on events.
* `Link.Lasts.roundTrip`: one that is kept by all that does not connect is kept by a round trip.
* `Link.Stable.exchange`, `Link.Stable.pollEvents`: a property of links that is kept by every access
  to the channel is kept by the operations of the link.
* `Link.offers_exchange`, `Link.exchange_of_unfit`: an exchange offers something on a connected link
  unless the request does not fit into a frame, and then it changes nothing.
-/

namespace AppletGateway

open Scripted (Call)
open Packed (pack)

/-- The bytes offered to the channel, the first of them first. -/
def Observed.offered {τ : Type} (o : Observed τ) : Bytes :=
  o.calls.flatMap fun
    | .send message _ => message
    | _ => []

namespace Link

/-! ## What every access keeps -/

section

variable {τ α : Type} [Transport τ] {I : Link τ → Prop}

/-- The property is kept by whatever a link does in one go to listen. -/
structure Listens (I : Link τ → Prop) : Prop where
  next : ∀ l, I l → I { l with decoder := l.decoder.next.2 }
  feed : ∀ l b, I l → I { l with decoder := l.decoder.feed b }
  emitted : ∀ l es, I l → I { l with emitted := es }
  receive : ∀ l room, I l → I { l with transport := (Transport.receive room l.transport).2 }

/-- The property is kept by whatever a link does in one go on its connection. -/
structure Lasts (I : Link τ → Prop) : Prop extends Listens I where
  send : ∀ l m, I l → I { l with transport := (Transport.send m l.transport).2 }

/-- The property is kept by whatever a link does in one go. -/
structure Stable (I : Link τ → Prop) : Prop extends Lasts I where
  opened : ∀ l, I l → I (openChannel.run l).2
  closed : ∀ l, I l → I (closeChannel.run l).2

namespace Listens

theorem nextInbound (h : Listens I) : Keeps I Link.nextInbound := by
  refine keeps_get fun l hl => ?_
  simp only [ends_bind, ends_set, andThen_ok]
  have hl' := h.next l hl
  split
  · exact hl'
  · exact hl'
  · split
    · exact hl'
    · exact hl'

theorem emit (h : Listens I) (e : Applet.Event) : Keeps I (Link.emit e) :=
  keeps_modify fun l hl => h.emitted l _ hl

theorem bufferedReply (h : Listens I) (limit : Nat) : Keeps I (Link.bufferedReply limit) := by
  induction limit with
  | zero => exact keeps_pure _
  | succ limit ih =>
    refine h.nextInbound.bind fun inbound => ?_
    split
    · exact keeps_pure _
    · exact keeps_pure _
    · exact (h.emit _).bind fun _ => ih

theorem routeBuffered (h : Listens I) (limit count : Nat) :
    Keeps I (Link.routeBuffered limit count) := by
  induction limit generalizing count with
  | zero => exact keeps_pure _
  | succ limit ih =>
    refine h.nextInbound.bind fun inbound => ?_
    split
    · exact keeps_pure _
    · exact ih _
    · exact (h.emit _).bind fun _ => ih _

theorem receiveMessage (h : Listens I) : Keeps I Link.receiveMessage := by
  refine keeps_get fun l hl => ?_
  simp only [ends_bind, ends_set, andThen_ok]
  have hl' := h.receive l l.maxMessage hl
  split
  · exact hl'
  · split
    · exact hl'
    · exact h.feed _ _ hl'

theorem awaitReply (h : Listens I) (limit : Nat) : Keeps I (Link.awaitReply limit) := by
  induction limit with
  | zero => exact keeps_throw _
  | succ limit ih =>
    refine keeps_get fun l hl => ((h.bufferedReply _).bind fun reply => ?_) l hl
    split
    · exact keeps_pure _
    · exact h.receiveMessage.bind fun _ => ih

theorem drainEvents (h : Listens I) (limit count : Nat) :
    Keeps I (Link.drainEvents limit count) := by
  induction limit generalizing count with
  | zero => exact keeps_throw _
  | succ limit ih =>
    refine keeps_get fun l hl => ((h.routeBuffered _ _).bind fun count => ?_) l hl
    refine keeps_get fun l' hl' => ?_
    split
    · exact (h.receiveMessage.bind fun _ => ih _) l' hl'
    · exact hl'

end Listens

namespace Lasts

theorem sendMessage (h : Lasts I) (limit : Nat) (message : Bytes) :
    Keeps I (Link.sendMessage limit message) := by
  induction limit generalizing message with
  | zero => cases message <;> intro l hl <;> exact hl
  | succ limit ih =>
    cases message with
    | nil => exact keeps_pure ()
    | cons b message =>
      refine keeps_get fun l hl => ?_
      simp only [ends_bind, ends_set, andThen_ok]
      have hl' := h.send l (b :: message) hl
      split
      · exact hl'
      · exact hl'
      · exact ih _ _ hl'

theorem sendMessages (h : Lasts I) (ms : List Bytes) :
    Keeps I (ms.forM fun message => Link.sendMessage message.length message) := by
  induction ms with
  | nil => exact keeps_pure ()
  | cons m ms ih => exact (h.sendMessage m.length m).bind fun _ => ih

theorem sendFrame (h : Lasts I) (frame : Bytes) : Keeps I (Link.sendFrame frame) :=
  keeps_get fun _ hl => h.sendMessages _ _ hl

theorem roundTrip (h : Lasts I) (frame : Bytes) : Keeps I (Link.roundTrip frame) :=
  (h.sendFrame frame).bind fun _ => keeps_get fun _ hl => h.awaitReply _ _ hl

end Lasts

/-- A request that does not fit into a frame fails, and nothing is done. -/
theorem exchange_of_unfit {l : Link τ} {q : Applet.Request} (hq : Frame.encode (pack q) = none) :
    Ends (exchange q) l fun r l' => (∃ e, r = .error e) ∧ l' = l := by
  simp only [exchange, ends_bind, ends_get, andThen_ok, hq]
  cases l.connected with
  | false => exact ⟨⟨_, rfl⟩, rfl⟩
  | true => exact ⟨⟨_, rfl⟩, rfl⟩

/-- An exchange that brings a reply leaves the connection as it is. -/
theorem ends_exchange_connected (q : Applet.Request) (l : Link τ) : Ends (exchange q) l fun r l' =>
    ∀ reply, r = .ok reply → l'.connected = l.connected := by
  rw [exchange, ends_bind, ends_get, andThen_ok]
  dsimp only
  split
  · rintro _ ⟨⟩
  · cases Frame.encode (pack q) with
    | none => rintro _ ⟨⟩
    | some frame =>
      have hlasts : Lasts fun l' : Link τ => l'.connected = l.connected :=
        ⟨⟨fun _ h => h, fun _ _ h => h, fun _ _ h => h, fun _ _ h => h⟩, fun _ _ h => h⟩
      refine (ends_orReset _).mpr ((hlasts.roundTrip frame l rfl).mono fun r l' hl' => ?_)
      cases r with
      | ok reply => exact fun _ _ => hl'
      | error e => rintro _ ⟨⟩

namespace Stable

theorem orReset (h : Stable I) {x : Run τ α} (hx : Keeps I x) : Keeps I (Link.orReset x) := by
  intro l hl
  rw [ends_orReset]
  refine (hx l hl).mono fun r l' hl' => ?_
  cases r with
  | ok a => exact hl'
  | error e => exact h.opened _ (h.closed _ hl')

/-- An exchange keeps what every access keeps. -/
theorem exchange (h : Stable I) (q : Applet.Request) : Keeps I (Link.exchange q) := by
  refine keeps_get fun l hl => ?_
  dsimp only
  split
  · exact hl
  · cases Frame.encode (pack q) with
    | none => exact hl
    | some frame => exact h.orReset (h.roundTrip frame) l hl

/-- So does polling. -/
theorem pollEvents (h : Stable I) : Keeps I Link.pollEvents := by
  refine keeps_get fun l hl => ?_
  split
  · exact hl
  · exact keeps_get (fun l' hl' => h.orReset (h.drainEvents _ _) l' hl') l hl

theorem connect (h : Stable I) : Keeps I Link.connect := by
  refine keeps_get fun l hl => ?_
  split
  · exact hl
  · rw [ends_bind, ends_lift, andThen_ok]
    split
    · exact h.opened l hl
    · exact h.opened l hl

theorem disconnect (h : Stable I) {l : Link τ} (hl : I l) : I (Link.disconnect.run l).2 := by
  rw [run_disconnect]
  split
  · exact h.closed l hl
  · exact hl

end Stable

/-- There is always room for a message. -/
theorem stable_room : Stable fun l : Link τ => 0 < l.maxMessage where
  next _ h := h
  feed _ _ h := h
  emitted _ _ h := h
  send _ _ h := h
  receive _ _ h := h
  closed _ h := h
  opened l h := by
    simp only [openChannel, StateT.run]
    split
    · show 0 < if _ = 0 then defaultMessage else _
      split
      · decide
      · omega
    · exact h

end

section

variable {τ : Type} [Transport τ] {l : Link (Observed τ)} {n : Nat}

/-- No access takes back what was offered. -/
theorem stable_offered (n : Nat) :
    Stable fun l : Link (Observed τ) => n ≤ l.transport.offered.length where
  next _ h := h
  feed _ _ h := h
  emitted _ _ h := h
  send l m h := by
    show n ≤ (List.flatMap _ (l.transport.calls ++ [_])).length
    rw [List.flatMap_append, List.length_append]
    exact Nat.le_add_right_of_le h
  receive l room h := by
    show n ≤ (List.flatMap _ (l.transport.calls ++ [_])).length
    rw [List.flatMap_append, List.length_append]
    exact Nat.le_add_right_of_le h
  closed l h := by
    show n ≤ (List.flatMap _ (l.transport.calls ++ [_])).length
    rw [List.flatMap_append, List.length_append]
    exact Nat.le_add_right_of_le h
  opened l h := by
    obtain ⟨answer, ha⟩ := attempted_openChannel l
    rw [Observed.offered, ha.calls, List.flatMap_append, List.length_append]
    exact Nat.le_add_right_of_le h

/-- A message that is not empty is offered, whatever becomes of it. -/
theorem offers_sendMessage (limit : Nat) (b : UInt8) (message : Bytes) :
    Ends (sendMessage (limit + 1) (b :: message)) l fun _ l' =>
      l.transport.offered.length < l'.transport.offered.length := by
  simp only [sendMessage, ends_bind, ends_get, andThen_ok, ends_set]
  have hsent : l.transport.offered.length + 1 ≤
      (Transport.send (b :: message) l.transport).2.offered.length := by
    show _ ≤ (List.flatMap _ (l.transport.calls ++ [_])).length
    rw [List.flatMap_append, List.length_append]
    exact Nat.add_le_add_left (by simp) _
  split
  · exact hsent
  · exact hsent
  · exact (stable_offered _).sendMessage _ _ _ hsent

/-- Something of a frame is offered, whatever becomes of it. -/
theorem offers_sendFrame {frame : Bytes} (hroom : 0 < l.maxMessage) (hne : frame ≠ []) :
    Ends (sendFrame frame) l fun _ l' =>
      l.transport.offered.length < l'.transport.offered.length := by
  cases frame with
  | nil => exact absurd rfl hne
  | cons b frame =>
    obtain ⟨size, hsize⟩ := Nat.exists_eq_add_of_lt hroom
    have hchunks : Bytes.chunks l.maxMessage (b :: frame) = (b :: frame.take size) ::
        Bytes.chunksUpTo l.maxMessage frame.length ((b :: frame).drop l.maxMessage) := by
      rw [Nat.zero_add] at hsize
      rw [hsize]
      rfl
    rw [sendFrame, ends_bind, ends_get, andThen_ok, hchunks]
    show Ends (sendMessage ((frame.take size).length + 1) (b :: frame.take size) >>= fun _ =>
      List.forM _ fun message => sendMessage message.length message) l _
    rw [ends_bind]
    refine (offers_sendMessage _ b _).mono fun r l' hoffer => ?_
    cases r with
    | error e => exact hoffer
    | ok _ => exact (stable_offered _).sendMessages _ l' hoffer

/-- On a connected link an exchange offers something, or the request does not fit into a frame. -/
theorem offers_exchange (hc : l.connected = true) (hroom : 0 < l.maxMessage) {q : Applet.Request}
    (hq : Frame.encode (pack q) ≠ none) : Ends (exchange q) l fun _ l' =>
      l.transport.offered.length < l'.transport.offered.length := by
  obtain ⟨frame, hq⟩ := Option.ne_none_iff_exists'.mp hq
  have hkeeps : Stable fun l' : Link (Observed τ) =>
      l.transport.offered.length < l'.transport.offered.length := stable_offered _
  have htrip : Ends (roundTrip frame) l fun _ l' =>
      l.transport.offered.length < l'.transport.offered.length := by
    rw [roundTrip, ends_bind]
    refine (offers_sendFrame hroom (Frame.encode_ne_nil hq)).mono fun r l' hoffer => ?_
    cases r with
    | error e => exact hoffer
    | ok _ => exact keeps_get (fun l hl => hkeeps.awaitReply _ l hl) l' hoffer
  simp only [exchange, ends_bind, ends_get, andThen_ok, hc, Bool.not_true, Bool.false_eq_true,
    if_false, hq]
  refine (ends_orReset _).mpr (htrip.mono fun r l' hoffer => ?_)
  cases r with
  | ok _ => exact hoffer
  | error e => exact hkeeps.opened _ (hkeeps.closed _ hoffer)

end

end Link

end AppletGateway
