import AppletGateway.Proofs.Delivery
import AppletGateway.Proofs.Resets

/-!
# What an exchange with the simulated co-processor can end with

A link is *quiet* between two operations: nothing is half sent or half received, and a device that
is not connected holds no session. From a quiet link an exchange ends in one of four ways: there is
no connection, the request does not fit into a frame, the device has taken the request and its own
reply came back, or the exchange broke off. In the last case the link has started over, so that the
device holds no session and the epoch has moved on if the new connection could be made.

Results:
* `Link.ends_exchange`: these four ways, with the state of the link and the device after each.
* `Link.ends_pollEvents`, `Link.ends_connect`, `Link.quiet_disconnect`: the same for the other
  operations of the link.
-/

namespace AppletGateway

open AppletGateway.Frame (Frames Decoder)
open Applet (Inbound)
open Packed (pack)

/-- The device holds no session. -/
structure Device.Closed (d : Device) : Prop where
  sessions : d.sessions = Table.empty
  subscribed : d.subscribed = []
  provisioning : d.provisioning = Table.empty

theorem Device.closed_closeAll (d : Device) : d.closeAll.Closed := ⟨rfl, rfl, rfl⟩

theorem Device.Closed.of_sameSessions {d d' : Device} (h : d.Closed) (hd : d.SameSessions d') :
    d'.Closed :=
  ⟨hd.sessions.trans h.sessions, hd.subscribed.trans h.subscribed,
    hd.provisioning.trans h.provisioning⟩

/-! ## What the device sends -/

namespace Channel

/-- The payload of a message, if it fits into a frame. -/
def payloadOf (inbound : Inbound) : List Bytes :=
  if (Frame.encode (pack inbound)).isSome then [pack inbound] else []

theorem frames_frameOf (inbound : Inbound) : Frames (payloadOf inbound) (frameOf inbound) := by
  unfold payloadOf frameOf
  cases h : Frame.encode (pack inbound) with
  | none => exact .nil
  | some f => exact .single h

theorem frames_events (es : List Applet.Event) :
    Frames (es.flatMap fun e => payloadOf (.event e))
      (es.flatMap fun e => frameOf (.event e)) := by
  induction es with
  | nil => exact .nil
  | cons e es ih => exact (frames_frameOf (.event e)).append ih

theorem frames_toCome {c : Channel} (h : c.outbox = []) :
    Frames (c.device.pending.flatMap fun e => payloadOf (.event e)) c.toCome := by
  rw [toCome, h]
  exact frames_events _

theorem length_pack_lt {i : Inbound} (h : (Frame.encode (pack i)).isSome) :
    (pack i).length < UInt64.size :=
  Nat.lt_of_le_of_lt ((Frame.encode_isSome_iff _).mp h).2 (by decide)

/-- The payloads of what the device sends when it answers: the raised events, an unreadable one if
it was told so, and the reply. -/
def answerPayloads (d : Device) (reply : Applet.Reply) : List Bytes :=
  (d.pending.flatMap fun e => payloadOf (.event e)) ++
    ((if d.garbleNext then [[0x7f]] else []) ++ payloadOf (.reply reply))

/-- The channel in which the device has taken a request and has sent its answer. -/
def answered (q : Applet.Request) (c : Channel) : Channel :=
  { c with device := (c.device.handle q).2 }.sendReply (c.device.handle q).1

theorem serve_pack {q : Applet.Request} (h : (pack q).length < UInt64.size) (c : Channel) :
    c.serve (pack q) = c.answered q := by
  unfold serve
  rw [Packed.read?_pack q h]
  rfl

theorem frames_answered {c : Channel} (h : c.outbox = []) (q : Applet.Request) :
    Frames (answerPayloads (c.device.handle q).2 (c.device.handle q).1)
      (c.answered q).toCome := by
  have hto : (c.answered q).toCome = ((c.device.handle q).2.pending.flatMap fun e =>
      frameOf (.event e)) ++ ((if (c.device.handle q).2.garbleNext then junkFrame else []) ++
        frameOf (.reply (c.device.handle q).1)) := by
    simp [answered, sendReply, flushEvents, toCome, h]
  rw [hto]
  refine (frames_events _).append (Frames.append ?_ (frames_frameOf _))
  split
  · exact .single rfl
  · exact .nil

end Channel

namespace Link

/-- Events in front do not change what waiting for a reply ends with. -/
theorem answerOf_events (es : List Applet.Event) (ps : List Bytes) :
    answerOf ((es.flatMap fun e => Channel.payloadOf (.event e)) ++ ps) = answerOf ps := by
  induction es with
  | nil => rfl
  | cons e es ih =>
    rw [List.flatMap_cons, List.append_assoc]
    by_cases h : (Frame.encode (pack (Inbound.event e))).isSome
    · have hread := Packed.read?_pack (Inbound.event e) (Channel.length_pack_lt h)
      rw [Channel.payloadOf, if_pos h, List.singleton_append, answerOf, hread]
      exact ih
    · rw [Channel.payloadOf, if_neg h, List.nil_append]
      exact ih

/-- Waiting for an answer of the device ends with its reply, unless an unreadable payload is in
front or the reply does not fit into a frame. -/
theorem answerOf_answerPayloads (d : Device) (reply : Applet.Reply) :
    (∃ e, (answerOf (Channel.answerPayloads d reply)).1 = .error e ∧
        (e = .transport ∨ e = .malformed) ∧
        (d.garbleNext = true ∨ Frame.encode (pack (Inbound.reply reply)) = none)) ∨
      (answerOf (Channel.answerPayloads d reply) = (.ok reply, []) ∧ d.garbleNext = false) := by
  rw [Channel.answerPayloads, answerOf_events]
  cases hg : d.garbleNext with
  | true => exact .inl ⟨.malformed, rfl, .inr rfl, .inl rfl⟩
  | false =>
    by_cases h : (Frame.encode (pack (Inbound.reply reply))).isSome
    · have hread := Packed.read?_pack (Inbound.reply reply) (Channel.length_pack_lt h)
      refine .inr ⟨?_, rfl⟩
      simp [Channel.payloadOf, h, answerOf, hread]
    · refine .inl ⟨.transport, ?_, .inl rfl, .inr (Option.not_isSome_iff_eq_none.mp h)⟩
      simp [Channel.payloadOf, h, answerOf]

/-! ## Quiet links -/

variable {l l' : Link Attended}

/-- The state of a link between two operations. -/
structure Quiet (l : Link Attended) : Prop where
  connected : l.transport.channel.connected = l.connected
  inbox : l.transport.channel.inbox = {}
  outbox : l.transport.channel.outbox = []
  decoder : l.decoder = {}
  room : l.connected = true → l.maxMessage = Channel.maxMessage
  closed : l.connected = false → l.transport.device.Closed

/-- What the link still reads, while it is quiet, are the events raised. -/
theorem Quiet.reading (h : Quiet l) (hc : l.connected = true) :
    Reading (l.transport.device.pending.flatMap fun e => Channel.payloadOf (.event e)) l := by
  refine ⟨h.connected.trans hc, ?_, ?_, ?_⟩
  · rw [h.room hc]
    decide
  · rw [h.decoder]
    exact Decoder.valid_new []
  · rw [h.decoder]
    exact Channel.frames_toCome h.outbox

/-- What has been read of a quiet link, with nothing left to be read, leaves it quiet. -/
theorem Quiet.of_reads {b : Attended} (h : Quiet l) (hc : l.connected = true)
    (hb : b.channel.connected = true) (hi : b.channel.inbox = {})
    (hr : Reads { l with transport := b } l') (hn : Reading [] l') : Quiet l' := by
  obtain ⟨c, d, es, rfl, out, pending, rfl, _⟩ := hr
  obtain ⟨hd, hcome⟩ := hn.eq_nil
  exact ⟨hb.trans hc.symm, hi, (List.append_eq_nil_iff.mp hcome).1, hd, h.room,
    fun hf => absurd (hc.symm.trans hf) nofun⟩

/-! ## Starting over -/

/-- What is left of a link that has started over when the device was `d`: the device holds no
session, and the epoch has moved on if the link is connected again. -/
structure StartedOver (epoch : Nat) (d : Device) (l : Link Attended) : Prop where
  quiet : Quiet l
  closed : l.transport.device.Closed
  nextHandle : l.transport.device.nextHandle = d.nextHandle
  received : l.transport.device.received = d.received
  epoch : l.epoch = if l.connected then epoch + 1 else epoch

/-- Connecting a link that is down leaves the sessions of the device as they are. -/
theorem openChannel_cases (h : l.transport.channel.connected = false) (hl : l.connected = false)
    (hi : l.transport.channel.inbox = {}) (ho : l.transport.channel.outbox = [])
    (hd : l.decoder = {}) (hclosed : l.transport.device.Closed) :
    let l' := (openChannel.run l).2
    StartedOver l.epoch l.transport.device l' ∧
      l'.connected = (openChannel.run l).1 ∧
      l'.transport.agenda = l.transport.agenda.tail := by
  have hsame : l.transport.device.SameSessions l.transport.attend.device :=
    (Attended.Disturbs.step (.refl l.transport.attend)).sameSessions
  have hclosed' := hclosed.of_sameSessions hsame
  have hconnect : Transport.connect l.client l.transport =
      ((l.transport.attend.channel.connect).1.toOption,
        { l.transport.attend with channel := l.transport.attend.channel.connect.2 }) := rfl
  simp only [openChannel, StateT.run, hconnect, Channel.connect]
  by_cases hoff : l.transport.attend.channel.device.offline = true
  · simp only [hoff, if_true, Except.toOption]
    have hdown : l.connected ≠ true := by
      rw [hl]
      exact Bool.false_ne_true
    exact ⟨⟨⟨h.trans hl.symm, hi, ho, hd, fun hc => absurd hc hdown, fun _ => hclosed'⟩, hclosed',
      hsame.nextHandle, hsame.received, (if_neg hdown).symm⟩, hl, rfl⟩
  · simp only [hoff, Except.toOption]
    exact ⟨⟨⟨rfl, rfl, rfl, rfl, fun _ => rfl, fun hl' => absurd hl'.symm Bool.false_ne_true⟩,
      hclosed', hsame.nextHandle, hsame.received, rfl⟩, rfl, rfl⟩

/-- Disconnecting ends all sessions. -/
theorem closeChannel_spec (h : l.transport.channel.connected = true) :
    let l' := (closeChannel.run l).2
    l'.connected = false ∧ l'.transport.channel = { l.transport.channel with
        connected := false, inbox := {}, outbox := [], device := l.transport.device.closeAll } ∧
      l'.decoder = {} ∧ l'.epoch = l.epoch := by
  refine ⟨rfl, ?_, rfl, rfl⟩
  show l.transport.channel.disconnect = _
  rw [Channel.disconnect, if_pos h]

theorem startedOver_reset (h : l.transport.channel.connected = true) :
    StartedOver l.epoch l.transport.device (reset.run l).2 := by
  obtain ⟨hl, hc, hd, he⟩ := closeChannel_spec h
  have hrun : (reset.run l).2 = (openChannel.run (closeChannel.run l).2).2 := rfl
  rw [hrun]
  generalize (closeChannel.run l).2 = l' at hl hc hd he
  have hclosed : l'.transport.device.Closed := by
    rw [Attended.device, hc]
    exact Device.closed_closeAll _
  have hover := (openChannel_cases (by rw [hc]) hl (by rw [hc]) (by rw [hc]) hd hclosed).1
  rw [he, Attended.device, hc] at hover
  exact ⟨hover.quiet, hover.closed, hover.nextHandle, hover.received, hover.epoch⟩

/-! ## Sending a request -/

/-- The channel of `b` with the requests in its inbox in some state. -/
def holding (inbox : Decoder) (b : Attended) : Attended :=
  { b with channel := b.channel.withInbox inbox }

/-- The channel of `b` after the device has taken a request and has sent its answer. -/
def answered (q : Applet.Request) (b : Attended) : Attended :=
  { b with channel := (b.channel.withInbox {}).answered q }

/-- Sending a message fails if the device is off line then; otherwise the device keeps the message,
or serves the request that it completes. -/
theorem ends_sendMessage {q : Applet.Request} {f s m more : Bytes} {inbox : Decoder} {b : Attended}
    (hc : b.channel.connected = true) (hv : inbox.Valid) (hs : inbox.stream = s)
    (hq : Frame.encode (pack q) = some f) (hf : f = s ++ m ++ more) (hne : m ≠ [])
    (hm : m.length ≤ Channel.maxMessage) :
    Ends (sendMessage m.length m) { l with transport := holding inbox b } fun r l' =>
      (r = .error .transport ∧ b.attend.device.offline = true ∧
          l' = { l with transport := holding inbox b.attend }) ∨
        (r = .ok () ∧ more = [] ∧ l' = { l with transport := answered q b.attend }) ∨
        (r = .ok () ∧ more ≠ [] ∧ ∃ inbox' : Decoder, inbox'.Valid ∧ inbox'.stream = s ++ m ∧
          l' = { l with transport := holding inbox' b.attend }) := by
  cases m with
  | nil => exact absurd rfl hne
  | cons x m =>
    let c := b.attend.channel.withInbox inbox
    have hsend : Transport.send (x :: m) (holding inbox b) =
        ((c.send (x :: m)).1.toOption, { b.attend with channel := (c.send (x :: m)).2 }) := rfl
    simp only [List.length_cons, sendMessage, ends_bind, ends_get, andThen_ok, ends_set, hsend]
    by_cases hoff : b.attend.device.offline = true
    · have hrefuse : c.send (x :: m) = (.error .offline, c) := by
        have hcc : c.connected = true := hc
        have hco : c.device.offline = true := hoff
        simp [Channel.send, hcc, hco]
      rw [hrefuse]
      exact .inl ⟨rfl, hoff, rfl⟩
    · have hoff : c.device.offline = false := Bool.eq_false_iff.mpr hoff
      have hdone : (sendMessage m.length ((x :: m).drop (x :: m).length) : Run Attended Unit) =
          pure () := by
        rw [List.drop_length]
        cases m.length <;> rfl
      by_cases hmore : more = []
      · subst hmore
        rw [List.append_nil] at hf
        have hlen : (pack q).length < UInt64.size := by
          have := (Frame.eq_of_encode hq).2.2
          exact Nat.lt_of_le_of_lt this (by decide)
        rw [Channel.send_whole (c := c) hc hoff hv hs hq hf hm, Channel.serve_pack hlen]
        show Ends (sendMessage m.length ((x :: m).drop (x :: m).length)) _ _
        rw [hdone, ends_pure]
        exact .inr (.inl ⟨rfl, rfl, rfl⟩)
      · obtain ⟨inbox', hv', hs', heq⟩ :=
          Channel.send_part (c := c) hc hoff hv hs hq hf hmore hm
        rw [heq]
        show Ends (sendMessage m.length ((x :: m).drop (x :: m).length)) _ _
        rw [hdone, ends_pure]
        exact .inr (.inr ⟨rfl, hmore, inbox', hv', hs', rfl⟩)

/-- The messages of a request are all sent, and the device serves it, unless the device is off line
when one of them is. -/
theorem ends_sendMessages {q : Applet.Request} {f : Bytes} (hq : Frame.encode (pack q) = some f)
    {ms : List Bytes} (hms : ∀ m ∈ ms, m ≠ [] ∧ m.length ≤ Channel.maxMessage) (hne : ms ≠ [])
    (inbox : Decoder) (b : Attended) (hc : b.channel.connected = true) (hv : inbox.Valid)
    (hf : f = inbox.stream ++ ms.flatten) :
    Ends (ms.forM fun m => sendMessage m.length m) { l with transport := holding inbox b }
      fun r l' => ∃ b', Attended.Disturbs b b' ∧
        ((r = .error .transport ∧ b'.device.offline = true ∧
            ∃ inbox', l' = { l with transport := holding inbox' b' }) ∨
          (r = .ok () ∧ l' = { l with transport := answered q b' })) := by
  induction ms generalizing inbox b with
  | nil => exact absurd rfl hne
  | cons m ms ih =>
    obtain ⟨hm, hlen⟩ := hms m List.mem_cons_self
    rw [List.flatten_cons, ← List.append_assoc] at hf
    show Ends (sendMessage m.length m >>= fun _ => ms.forM fun m => sendMessage m.length m) _ _
    rw [ends_bind]
    refine (ends_sendMessage hc hv rfl hq hf hm hlen).mono fun r l' => ?_
    have hstep : Attended.Disturbs b b.attend := .step (.refl _)
    rintro (⟨rfl, hoff, rfl⟩ | ⟨rfl, hmore, rfl⟩ | ⟨rfl, hmore, inbox', hv', hs', rfl⟩)
    · exact ⟨b.attend, hstep, .inl ⟨rfl, hoff, inbox, rfl⟩⟩
    · -- Messages are not empty, so this was the last.
      have hlast : ms = [] := by
        cases ms with
        | nil => rfl
        | cons m' ms =>
          rw [List.flatten_cons, List.append_eq_nil_iff] at hmore
          exact absurd hmore.1 (hms m' (List.mem_cons_of_mem _ List.mem_cons_self)).1
      subst hlast
      exact ⟨b.attend, hstep, .inr ⟨rfl, rfl⟩⟩
    · simp only [andThen_ok]
      have hne' : ms ≠ [] := by
        rintro rfl
        exact hmore rfl
      rw [← hs'] at hf
      refine (ih (fun m' hm' => hms m' (List.mem_cons_of_mem _ hm')) hne' inbox' b.attend hc hv'
        hf).mono fun r l' => ?_
      rintro ⟨b', hb', h⟩
      exact ⟨b', hstep.trans hb', h⟩

/-- A request on a quiet link is sent as a whole, and the device serves it, unless the device is off
line when one of its messages is sent. -/
theorem ends_sendFrame (h : Quiet l) (hc : l.connected = true) {q : Applet.Request} {f : Bytes}
    (hq : Frame.encode (pack q) = some f) :
    Ends (sendFrame f) l fun r l' => ∃ b, Attended.Disturbs l.transport b ∧
      ((r = .error .transport ∧ b.device.offline = true ∧
          ∃ inbox, l' = { l with transport := holding inbox b }) ∨
        (r = .ok () ∧ l' = { l with transport := answered q b })) := by
  have hroom := h.room hc
  have hsize : 0 < l.maxMessage := by
    rw [hroom]
    decide
  have hflat := Bytes.flatten_chunks hsize f
  have hhold : holding {} l.transport = l.transport := by
    have : l.transport.channel.withInbox {} = l.transport.channel := by
      rw [← h.inbox]
      rfl
    rw [holding, this]
  have hpieces : ∀ m ∈ Bytes.chunks l.maxMessage f, m ≠ [] ∧ m.length ≤ Channel.maxMessage :=
    fun m hm => ⟨Bytes.ne_nil_of_mem_chunksUpTo hsize hm,
      Nat.le_trans (Bytes.length_le_of_mem_chunksUpTo hm) (Nat.le_of_eq hroom)⟩
  have hne : Bytes.chunks l.maxMessage f ≠ [] := by
    intro hnil
    rw [hnil] at hflat
    exact Frame.encode_ne_nil hq hflat.symm
  simp only [sendFrame, ends_bind, ends_get, andThen_ok]
  have := ends_sendMessages (l := l) hq hpieces hne {} l.transport
    (h.connected.trans hc) (Decoder.valid_new []) hflat.symm
  rwa [hhold] at this

/-! ## An exchange -/

/-- What can break an exchange off once the device is `d` and meets the request. -/
def Faulty (d : Device) (q : Applet.Request) : Prop :=
  d.offline = true ∨ (d.handle q).2.garbleNext = true ∨
    Frame.encode (pack (Inbound.reply (d.handle q).1)) = none

/-- The ways in which an exchange on the link `l` can end. -/
inductive Exchanged (l : Link Attended) (q : Applet.Request) :
    Except LinkError Applet.Reply → Link Attended → Prop
  /-- There is no connection. -/
  | down (hc : l.connected = false) : Exchanged l q (.error .notConnected) l
  /-- The request does not fit into a frame. -/
  | unsent (hc : l.connected = true) (hq : Frame.encode (pack q) = none) :
    Exchanged l q (.error .encode) l
  /-- The device has taken the request, and its reply has come back. -/
  | served {b : Attended} {l' : Link Attended} (hc : l.connected = true)
    (hb : Attended.Disturbs l.transport b) (quiet : Quiet l') (hc' : l'.connected = true)
    (epoch : l'.epoch = l.epoch) (agenda : l'.transport.agenda = b.agenda)
    (device : l'.transport.device =
      { (b.device.handle q).2 with pending := [], garbleNext := false }) :
    Exchanged l q (.ok (b.device.handle q).1) l'
  /-- The exchange broke off, and the link has started over. -/
  | lost {b : Attended} {e : LinkError} {d : Device} {l' : Link Attended}
    (hc : l.connected = true) (he : e = .transport ∨ e = .malformed)
    (hb : Attended.Disturbs l.transport b) (fault : Faulty b.device q)
    (hd : b.device.SameSessions d ∨ (b.device.handle q).2.SameSessions d)
    (anew : StartedOver l.epoch d l') : Exchanged l q (.error e) l'

/-- What the device has sent is what the link reads next. -/
theorem reading_answered {b : Attended} (h : Quiet l) (hc : l.connected = true)
    (hb : Attended.Disturbs l.transport b) (q : Applet.Request) :
    Reading (Channel.answerPayloads (b.device.handle q).2 (b.device.handle q).1)
      { l with transport := answered q b } := by
  have hchannel := hb.channel_eq
  refine ⟨?_, ?_, ?_, ?_⟩
  · show b.channel.connected = true
    rw [hchannel]
    exact h.connected.trans hc
  · show 0 < l.maxMessage
    rw [h.room hc]
    decide
  · show l.decoder.Valid
    rw [h.decoder]
    exact Decoder.valid_new []
  · show Frames _ (l.decoder.stream ++ ((b.channel.withInbox {}).answered q).toCome)
    rw [h.decoder]
    have hout : (b.channel.withInbox {}).outbox = [] := by
      show b.channel.outbox = []
      rw [hchannel]
      exact h.outbox
    exact Channel.frames_answered hout q

theorem ends_roundTrip (h : Quiet l) (hc : l.connected = true) {q : Applet.Request} {f : Bytes}
    (hq : Frame.encode (pack q) = some f) :
    Ends (roundTrip f) l fun r l' => ∃ b, Attended.Disturbs l.transport b ∧
      ((r = .ok (b.device.handle q).1 ∧ Quiet l' ∧ l'.connected = true ∧ l'.epoch = l.epoch ∧
          l'.transport.agenda = b.agenda ∧ l'.transport.device =
            { (b.device.handle q).2 with pending := [], garbleNext := false }) ∨
        ∃ e, r = .error e ∧ (e = .transport ∨ e = .malformed) ∧ Faulty b.device q ∧
          l'.transport.channel.connected = true ∧ l'.epoch = l.epoch ∧
          (b.device.SameSessions l'.transport.device ∨
            (b.device.handle q).2.SameSessions l'.transport.device)) := by
  simp only [roundTrip, ends_bind]
  refine (ends_sendFrame h hc hq).mono fun r l' => ?_
  rintro ⟨b, hb, ⟨rfl, hoff, inbox, rfl⟩ | ⟨rfl, rfl⟩⟩
  · refine ⟨b, hb, .inr ⟨.transport, rfl, .inl rfl, .inl hoff, ?_, rfl, .inl (.refl _)⟩⟩
    show b.channel.connected = true
    rw [hb.channel_eq]
    exact h.connected.trans hc
  · have hread := reading_answered h hc hb q
    simp only [andThen_ok, ends_bind, ends_get]
    have hlimit : (answered q b).channel.toCome.length < Transport.backlog (answered q b) + 1 := by
      rw [Channel.length_toCome]
      exact Nat.lt_succ_self _
    refine (ends_awaitReply hread hlimit).mono fun r l' => ?_
    rintro ⟨hreads, rfl, hrest⟩
    refine ⟨b, hb, ?_⟩
    rcases answerOf_answerPayloads (b.device.handle q).2 (b.device.handle q).1 with
      ⟨e, he, hkind, hfault⟩ | ⟨hans, _⟩
    · obtain ⟨c, d, es, rfl, out, pending, rfl, hp⟩ := hreads
      exact .inr ⟨e, he, hkind, .inr hfault, hread.connected, rfl,
        .inr ⟨rfl, rfl, rfl, rfl, rfl⟩⟩
    · rw [hans] at hrest ⊢
      have hrest := hrest _ rfl
      have hquiet : Quiet l' := h.of_reads hc hread.connected rfl hreads hrest
      obtain ⟨c, d, es, rfl, out, pending, rfl, hp⟩ := hreads
      obtain rfl : pending = [] := hp.elim id id
      exact .inl ⟨rfl, hquiet, hc, rfl, rfl, rfl⟩

/-- A request that does not fit into a frame fails. -/
theorem ends_exchange_of_unfit {q : Applet.Request} (hq : Frame.encode (pack q) = none) :
    Ends (exchange q) l fun r _ => ∃ e, r = .error e := by
  simp only [exchange, ends_bind, ends_get, andThen_ok, hq]
  cases l.connected <;> exact ⟨_, rfl⟩

/-- From a quiet link an exchange ends in one of four ways. -/
theorem ends_exchange (h : Quiet l) (q : Applet.Request) :
    Ends (exchange q) l (Exchanged l q) := by
  simp only [exchange, ends_bind, ends_get, andThen_ok]
  cases hc : l.connected with
  | false => exact .down hc
  | true =>
    cases hq : Frame.encode (pack q) with
    | none => exact .unsent hc hq
    | some f =>
      simp only [Bool.not_true, Bool.false_eq_true, if_false]
      rw [ends_orReset]
      refine (ends_roundTrip h hc hq).mono fun r l' => ?_
      rintro ⟨b, hb, ⟨rfl, hquiet, hc', he, ha, hd⟩ | ⟨e, rfl, hkind, hfault, hc', he, hn⟩⟩
      · exact .served hc hb hquiet hc' he ha hd
      · have hover := startedOver_reset hc'
        rw [he] at hover
        exact .lost hc hkind hb hfault hn hover

theorem Exchanged.epoch_le {q : Applet.Request} {r : Except LinkError Applet.Reply}
    (hx : Exchanged l q r l') : l.epoch ≤ l'.epoch := by
  cases hx with
  | down _ => exact Nat.le_refl _
  | unsent _ _ => exact Nat.le_refl _
  | served _ _ _ _ epoch _ _ => exact Nat.le_of_eq epoch.symm
  | lost _ _ _ _ _ anew =>
    have := anew.epoch
    split at this <;> omega

/-! ## The other operations of the link -/

/-- Handing events on leaves the link quiet, or it has started over. -/
theorem ends_pollEvents (h : Quiet l) :
    Ends pollEvents l fun r l' =>
      (∃ n, r = .ok n ∧ Quiet l' ∧ l'.connected = l.connected ∧ l'.epoch = l.epoch ∧
          l.transport.device.SameSessions l'.transport.device) ∨
        (l.connected = true ∧ (∃ e, r = .error e) ∧
          StartedOver l.epoch l.transport.device l') := by
  simp only [pollEvents, ends_bind, ends_get, andThen_ok]
  cases hc : l.connected with
  | false => exact .inl ⟨0, rfl, h, hc, rfl, .refl _⟩
  | true =>
    simp only [Bool.not_true, Bool.false_eq_true, if_false, ends_bind, ends_get, andThen_ok]
    rw [ends_orReset]
    refine (ends_drainEvents (h.reading hc)).mono fun r l' => ?_
    rintro ⟨hreads, hn⟩
    cases r with
    | ok n =>
      have hquiet : Quiet l' := h.of_reads hc (h.connected.trans hc) h.inbox hreads (hn n rfl)
      obtain ⟨c, d, es, rfl, out, pending, rfl, hp⟩ := hreads
      exact .inl ⟨n, rfl, hquiet, hc, rfl, ⟨rfl, rfl, rfl, rfl, rfl⟩⟩
    | error e =>
      have hconn : l'.transport.channel.connected = true := by
        obtain ⟨c, d, es, rfl, hdrain⟩ := hreads
        exact hdrain.connected.trans (h.connected.trans hc)
      have hover := startedOver_reset hconn
      obtain ⟨c, d, es, rfl, out, pending, rfl, hp⟩ := hreads
      exact .inr ⟨trivial, ⟨e, rfl⟩, hover.quiet, hover.closed, hover.nextHandle, hover.received,
        hover.epoch⟩

/-- Connecting a quiet link changes nothing if it is connected; otherwise the device holds no
session, and the epoch moves on if the connection can be made. -/
theorem ends_connect (h : Quiet l) :
    Ends connect l fun r l' => (l.connected = true ∧ r = .ok () ∧ l' = l) ∨
      (l.connected = false ∧ StartedOver l.epoch l.transport.device l' ∧
        (r = .ok () ↔ l'.connected = true)) := by
  simp only [connect, ends_bind, ends_get, andThen_ok]
  cases hc : l.connected with
  | true => exact .inl ⟨rfl, rfl, rfl⟩
  | false =>
    obtain ⟨hover, hopen, _⟩ := openChannel_cases (h.connected.trans hc) hc h.inbox h.outbox
      h.decoder (h.closed hc)
    simp only [Bool.false_eq_true, if_false, ends_bind, ends_lift, andThen_ok, ends_ite]
    cases ho : (openChannel.run l).1 with
    | true =>
      rw [ho] at hopen
      exact .inr ⟨trivial, hover, iff_of_true rfl hopen⟩
    | false =>
      rw [ho] at hopen
      refine .inr ⟨trivial, hover, iff_of_false (fun hr => ?_) fun hc' => ?_⟩
      · cases hr
      · exact Bool.false_ne_true (hopen.symm.trans hc')

/-- Disconnecting a quiet link ends all sessions. -/
theorem quiet_disconnect (h : Quiet l) :
    let l' := (disconnect.run l).2
    Quiet l' ∧ l'.connected = false ∧ l'.epoch = l.epoch ∧
      l'.transport.device.nextHandle = l.transport.device.nextHandle ∧
      l'.transport.device.received = l.transport.device.received := by
  rw [run_disconnect]
  cases hc : l.connected with
  | false => exact ⟨h, hc, rfl, rfl, rfl⟩
  | true =>
    obtain ⟨hl, hch, hd, he⟩ := closeChannel_spec (h.connected.trans hc)
    rw [if_pos rfl]
    generalize (closeChannel.run l).2 = l' at hl hch hd he
    have hstay (hc' : l'.connected = true) : False := nomatch hl.symm.trans hc'
    refine ⟨⟨?_, ?_, ?_, hd, fun hc' => (hstay hc').elim, fun _ => ?_⟩, hl, he, ?_, ?_⟩
    · rw [hch, hl]
    · rw [hch]
    · rw [hch]
    · rw [Attended.device, hch]
      exact Device.closed_closeAll _
    · rw [Attended.device, hch]
      rfl
    · rw [Attended.device, hch]
      rfl

end Link

end AppletGateway
