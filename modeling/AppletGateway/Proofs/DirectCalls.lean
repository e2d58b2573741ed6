import AppletGateway.Proofs.Exchange
import AppletGateway.Proofs.Handles

/-!
# The link to the simulated co-processor as a direct call

Requests are cut into messages and put together again, and replies and events share one stream of
frames that is cut at other places. If every message fits into a frame and no fault is set up, none
of this shows: an exchange is a call of `Device.handle`, and the events come out as they were
raised.

The argument follows the events. While the payloads that the link has still to read are those of
some events, with or without a reply behind them, each step hands on a part of these events and
leaves the rest to be read. At the end of an operation there is no rest.

Results:
* `Link.ends_exchange_direct`, `Link.ends_pollEvents_direct`: one operation.
* `Link.direct_calls`: a run of operations after whatever happened before.
-/

namespace AppletGateway

open Applet (Event Inbound)
open Packed (pack)

/-- The packed form fits into a frame. -/
def Fits {α : Type} [Packed α] (a : α) : Prop := (pack a).length ≤ Frame.maxPayload

instance {α : Type} [Packed α] (a : α) : Decidable (Fits a) :=
  inferInstanceAs (Decidable ((pack a).length ≤ Frame.maxPayload))

namespace Fits

theorem request {q : Applet.Request} (h : Fits q) : ∃ f, Frame.encode (pack q) = some f := by
  refine Option.isSome_iff_exists.mp ((Frame.encode_isSome_iff _).mpr ⟨?_, h⟩)
  cases q <;> exact Nat.succ_pos _

theorem inbound {i : Inbound} (h : Fits i) : (Frame.encode (pack i)).isSome := by
  refine (Frame.encode_isSome_iff _).mpr ⟨?_, h⟩
  cases i <;> exact Nat.succ_pos _

end Fits

/-- The operator does something to the device behind the channel. -/
def Attended.operate (c : Control) (a : Attended) : Attended := a.withDevice (c.apply a.device)

namespace Link

variable {l l' : Link Attended} {ps : List Bytes} {es : List Event} {reply : Applet.Reply}

/-! ## The payloads of events -/

/-- The payloads of some events. -/
def announced (es : List Event) : List Bytes := es.map fun e => pack (Inbound.event e)

theorem payloads_eq_announced (h : ∀ e ∈ es, Fits (Inbound.event e)) :
    (es.flatMap fun e => Channel.payloadOf (.event e)) = announced es := by
  induction es with
  | nil => rfl
  | cons e es ih =>
    rw [List.flatMap_cons, ih fun e' he' => h e' (List.mem_cons_of_mem e he'), Channel.payloadOf,
      if_pos (h e List.mem_cons_self).inbound]
    rfl

/-! ## One message -/

theorem emitted_nextInbound (l : Link Attended) :
    Ends nextInbound l fun _ l' => l'.emitted = l.emitted := by
  simp only [nextInbound, ends_bind, ends_get, andThen_ok, ends_set]
  split
  · rfl
  · rfl
  · split <;> rfl

theorem emitted_receiveMessage (l : Link Attended) :
    Ends receiveMessage l fun _ l' => l'.emitted = l.emitted := by
  simp only [receiveMessage, ends_bind, ends_get, andThen_ok, ends_set]
  split
  · rfl
  · simp only [ends_ite]
    split <;> rfl

/-- The next message is the one to be read first, if it has arrived. -/
theorem ends_nextInbound_pack {i : Inbound} (hi : Fits i) (h : Reading (pack i :: ps) l) :
    Ends nextInbound l fun r l' => Reads l l' ∧ l'.transport = l.transport ∧
      l'.emitted = l.emitted ∧
      ((r = .ok none ∧ Reading (pack i :: ps) l' ∧ l.transport.channel.toCome ≠ []) ∨
        (r = .ok (some i) ∧ Reading ps l' ∧ l'.decoder.buffered < l.decoder.buffered)) := by
  refine ((ends_nextInbound h).and (emitted_nextInbound l)).mono fun r l' => ?_
  rintro ⟨⟨hreads, htrans, ⟨rfl, hrest, hnil⟩ | ⟨p, rest, hps, rfl, hrest, hlt⟩⟩, hem⟩
  · exact ⟨hreads, htrans, hem, .inl ⟨rfl, hrest, fun hcome => nomatch hnil hcome⟩⟩
  · obtain ⟨rfl, rfl⟩ := List.cons.inj hps
    have hread : inboundOf (pack i) = .ok (some i) := by
      rw [inboundOf, Packed.read?_pack i (Channel.length_pack_lt hi.inbound)]
    exact ⟨hreads, htrans, hem, .inr ⟨hread, hrest, hlt⟩⟩

/-- With nothing to be read there is no next message. -/
theorem ends_nextInbound_nil (h : Reading [] l) :
    Ends nextInbound l fun r l' => Reads l l' ∧ l'.transport = l.transport ∧
      l'.emitted = l.emitted ∧ r = .ok none ∧ Reading [] l' := by
  refine ((ends_nextInbound h).and (emitted_nextInbound l)).mono fun r l' => ?_
  rintro ⟨⟨hreads, htrans, ⟨rfl, hrest, _⟩ | ⟨p, rest, hps, _⟩⟩, hem⟩
  · exact ⟨hreads, htrans, hem, rfl, hrest⟩
  · cases hps

/-- The link with an event handed on. -/
def handedOn (e : Event) (l : Link Attended) : Link Attended :=
  { l with emitted := l.emitted ++ [e] }

theorem transport_handedOn (e : Event) (l : Link Attended) :
    (l.handedOn e).transport = l.transport := rfl

theorem reads_handedOn (e : Event) (l : Link Attended) : Reads l (l.handedOn e) :=
  ⟨_, _, _, rfl, .refl _⟩

theorem Reading.handedOn (h : Reading ps l) (e : Event) : Reading ps (l.handedOn e) :=
  ⟨h.connected, h.room, h.valid, h.frames⟩

theorem ends_emit_bind {α : Type} {Q : Except LinkError α → Link Attended → Prop} (e : Event)
    (f : Unit → Run Attended α) : Ends (emit e >>= f) l Q = Ends (f ()) (l.handedOn e) Q := by
  rw [ends_bind]
  rfl

/-! ## Waiting for the reply -/

/-- Of the events in front of a reply some are handed on, and the rest is still to be read. -/
theorem ends_bufferedReply_direct {limit : Nat} (hes : ∀ e ∈ es, Fits (Inbound.event e))
    (hreply : Fits (Inbound.reply reply))
    (h : Reading (announced es ++ [pack (Inbound.reply reply)]) l)
    (hl : l.decoder.buffered < limit) :
    Ends (bufferedReply limit) l fun r l' => Reads l l' ∧ l'.transport = l.transport ∧
      ∃ done rest, es = done ++ rest ∧ l'.emitted = l.emitted ++ done ∧
        ((r = .ok none ∧ Reading (announced rest ++ [pack (Inbound.reply reply)]) l' ∧
            l.transport.channel.toCome ≠ []) ∨
          (r = .ok (some reply) ∧ rest = [] ∧ Reading [] l')) := by
  induction limit generalizing l es with
  | zero => omega
  | succ limit ih =>
    simp only [bufferedReply, ends_bind]
    cases es with
    | nil =>
      refine (ends_nextInbound_pack hreply h).mono fun r l' => ?_
      rintro ⟨hreads, htrans, hem, ⟨rfl, hrest, hcome⟩ | ⟨rfl, hrest, _⟩⟩
      · simp only [andThen_ok, ends_pure]
        exact ⟨hreads, htrans, [], [], rfl, by rw [hem, List.append_nil],
          .inl ⟨trivial, hrest, hcome⟩⟩
      · simp only [andThen_ok, ends_pure]
        exact ⟨hreads, htrans, [], [], rfl, by rw [hem, List.append_nil],
          .inr ⟨trivial, rfl, hrest⟩⟩
    | cons e es =>
      refine (ends_nextInbound_pack (hes e List.mem_cons_self) h).mono fun r l' => ?_
      rintro ⟨hreads, htrans, hem, ⟨rfl, hrest, hcome⟩ | ⟨rfl, hrest, hlt⟩⟩
      · simp only [andThen_ok, ends_pure]
        exact ⟨hreads, htrans, [], e :: es, rfl, by rw [hem, List.append_nil],
          .inl ⟨trivial, hrest, hcome⟩⟩
      · simp only [andThen_ok, ends_emit_bind]
        refine (ih (fun e' he' => hes e' (List.mem_cons_of_mem e he')) (hrest.handedOn e)
          (Nat.lt_of_lt_of_le hlt (Nat.le_of_lt_succ hl))).mono fun r l'' => ?_
        rintro ⟨hreads', htrans', done, rest, rfl, hem', hcases⟩
        refine ⟨?_, htrans'.trans htrans, e :: done, rest, rfl, ?_, ?_⟩
        · exact (hreads.trans (reads_handedOn e l')).trans hreads'
        · rw [hem', Link.handedOn, hem, List.append_assoc]
          rfl
        · rwa [transport_handedOn, htrans] at hcases

/-- Waiting for the reply hands the events in front of it on. -/
theorem ends_awaitReply_direct {limit : Nat} (hes : ∀ e ∈ es, Fits (Inbound.event e))
    (hreply : Fits (Inbound.reply reply))
    (h : Reading (announced es ++ [pack (Inbound.reply reply)]) l)
    (hl : l.transport.channel.toCome.length < limit) :
    Ends (awaitReply limit) l fun r l' => Reads l l' ∧ r = .ok reply ∧
      l'.emitted = l.emitted ++ es ∧ Reading [] l' := by
  induction limit generalizing l es with
  | zero => omega
  | succ limit ih =>
    simp only [awaitReply, ends_bind, ends_get, andThen_ok]
    refine (ends_bufferedReply_direct hes hreply h (Nat.lt_succ_self _)).mono fun r l' => ?_
    rintro ⟨hreads, htrans, done, rest, rfl, hem, ⟨rfl, hrest, hcome⟩ | ⟨rfl, rfl, hrest⟩⟩
    · -- The reply has not arrived, so there is something to be received.
      rw [← htrans] at hl hcome
      simp only [andThen_ok, ends_bind]
      refine ((ends_receiveMessage hrest).and (emitted_receiveMessage l')).mono fun r l'' => ?_
      rintro ⟨⟨hreads', hrest', ⟨rfl, hempty⟩ | ⟨rfl, hlt⟩⟩, hem'⟩
      · exact absurd hempty hcome
      · simp only [andThen_ok]
        refine (ih (fun e he => hes e (List.mem_append_right done he)) hrest'
          (by omega)).mono fun r l''' => ?_
        rintro ⟨hreads'', rfl, hem'', hnil⟩
        refine ⟨(hreads.trans hreads').trans hreads'', rfl, ?_, hnil⟩
        rw [hem'', hem', hem, List.append_assoc]
    · rw [List.append_nil]
      exact ⟨hreads, rfl, hem, hrest⟩

/-! ## Handing events on -/

/-- Of the events to be read some are handed on and counted, and the rest is still to be read. -/
theorem ends_routeBuffered_direct {limit count : Nat} (hes : ∀ e ∈ es, Fits (Inbound.event e))
    (h : Reading (announced es) l) (hl : l.decoder.buffered < limit) :
    Ends (routeBuffered limit count) l fun r l' => Reads l l' ∧ l'.transport = l.transport ∧
      ∃ done rest, es = done ++ rest ∧ l'.emitted = l.emitted ++ done ∧
        r = .ok (count + done.length) ∧ Reading (announced rest) l' ∧
        (l.transport.channel.toCome = [] → rest = []) := by
  induction limit generalizing l es count with
  | zero => omega
  | succ limit ih =>
    simp only [routeBuffered, ends_bind]
    cases es with
    | nil =>
      refine (ends_nextInbound_nil h).mono fun r l' => ?_
      rintro ⟨hreads, htrans, hem, rfl, hrest⟩
      simp only [andThen_ok, ends_pure]
      exact ⟨hreads, htrans, [], [], rfl, by rw [hem, List.append_nil], rfl, hrest,
        fun _ => rfl⟩
    | cons e es =>
      refine (ends_nextInbound_pack (hes e List.mem_cons_self) h).mono fun r l' => ?_
      rintro ⟨hreads, htrans, hem, ⟨rfl, hrest, hcome⟩ | ⟨rfl, hrest, hlt⟩⟩
      · simp only [andThen_ok, ends_pure]
        exact ⟨hreads, htrans, [], e :: es, rfl, by rw [hem, List.append_nil], rfl, hrest,
          fun h0 => absurd h0 hcome⟩
      · simp only [andThen_ok, ends_emit_bind]
        refine (ih (fun e' he' => hes e' (List.mem_cons_of_mem e he')) (hrest.handedOn e)
          (Nat.lt_of_lt_of_le hlt (Nat.le_of_lt_succ hl))).mono fun r l'' => ?_
        rintro ⟨hreads', htrans', done, rest, rfl, hem', rfl, hrest', hnil⟩
        refine ⟨?_, htrans'.trans htrans, e :: done, rest, rfl, ?_, ?_, hrest', ?_⟩
        · exact (hreads.trans (reads_handedOn e l')).trans hreads'
        · rw [hem', Link.handedOn, hem, List.append_assoc]
          rfl
        · rw [List.length_cons, Nat.add_right_comm, Nat.add_assoc]
        · rwa [transport_handedOn, htrans] at hnil

/-- If the events raised fit into frames and nothing is to come, none is raised. -/
theorem pending_of_toCome (hp : ∀ e ∈ l.transport.device.pending, Fits (Inbound.event e))
    (h : l.transport.channel.toCome = []) : l.transport.device.pending = [] := by
  refine List.eq_nil_iff_forall_not_mem.mpr fun e he => ?_
  obtain ⟨f, hf⟩ := Option.isSome_iff_exists.mp (hp e he).inbound
  have hframe : Channel.frameOf (.event e) = [] :=
    List.flatMap_eq_nil_iff.mp (List.append_eq_nil_iff.mp h).2 e he
  rw [Channel.frameOf, hf] at hframe
  exact Frame.encode_ne_nil hf hframe

/-- If the events raised fit into frames, a message that is waiting has at least one byte. -/
theorem toCome_ne_nil (hp : ∀ e ∈ l.transport.device.pending, Fits (Inbound.event e))
    (h : l.transport.channel.available = true) : l.transport.channel.toCome ≠ [] := by
  intro hnil
  have hout : l.transport.channel.outbox = [] := (List.append_eq_nil_iff.mp hnil).1
  have hpend : l.transport.channel.device.pending = [] := pending_of_toCome hp hnil
  simp [Channel.available, hout, hpend] at h

/-- Receiving raises no events. -/
theorem Reads.pending {P : Event → Prop} (h : Reads l l')
    (hp : ∀ e ∈ l.transport.device.pending, P e) : ∀ e ∈ l'.transport.device.pending, P e := by
  obtain ⟨_, _, _, rfl, _, _, rfl, rfl | rfl⟩ := h
  · exact hp
  · exact nofun

/-- All events to be read are handed on and counted. -/
theorem ends_drainEvents_direct {limit count : Nat} (hes : ∀ e ∈ es, Fits (Inbound.event e))
    (hp : ∀ e ∈ l.transport.device.pending, Fits (Inbound.event e))
    (h : Reading (announced es) l) (hl : l.transport.channel.toCome.length < limit) :
    Ends (drainEvents limit count) l fun r l' => Reads l l' ∧ r = .ok (count + es.length) ∧
      l'.emitted = l.emitted ++ es ∧ Reading [] l' := by
  induction limit generalizing l es count with
  | zero => omega
  | succ limit ih =>
    simp only [drainEvents, ends_bind, ends_get, andThen_ok]
    refine (ends_routeBuffered_direct hes h (Nat.lt_succ_self _)).mono fun r l' => ?_
    rintro ⟨hreads, htrans, done, rest, rfl, hem, rfl, hrest, hnil⟩
    rw [← htrans] at hl hnil hp
    simp only [andThen_ok, ends_bind, ends_get, ends_ite]
    split
    · rename_i havail
      refine ((ends_receiveMessage hrest).and (emitted_receiveMessage l')).mono fun r l'' => ?_
      rintro ⟨⟨hreads', hrest', ⟨rfl, hempty⟩ | ⟨rfl, hlt⟩⟩, hem'⟩
      · exact absurd hempty (toCome_ne_nil hp havail)
      · simp only [andThen_ok]
        refine (ih (fun e he => hes e (List.mem_append_right done he)) (hreads'.pending hp) hrest'
          (by omega)).mono fun r l''' => ?_
        rintro ⟨hreads'', rfl, hem'', hnil⟩
        refine ⟨(hreads.trans hreads').trans hreads'', ?_, ?_, hnil⟩
        · rw [List.length_append, Nat.add_assoc]
        · rw [hem'', hem', hem, List.append_assoc]
    · rename_i havail
      obtain rfl := hnil (Channel.toCome_of_not_available hrest.connected havail)
      simp only [ends_pure, List.append_nil]
      exact ⟨hreads, trivial, hem, hrest⟩

/-! ## One operation -/

/-- The link is connected, no fault is set up, and the events raised fit into frames. -/
structure Ready (l : Link Attended) : Prop where
  connected : l.connected = true
  agenda : l.transport.agenda = []
  offline : l.transport.device.offline = false
  garbleNext : l.transport.device.garbleNext = false
  pending : ∀ e ∈ l.transport.device.pending, Fits (Inbound.event e)

instance (l : Link Attended) : Decidable (Ready l) :=
  decidable_of_iff (l.connected = true ∧ l.transport.agenda = [] ∧
      l.transport.device.offline = false ∧ l.transport.device.garbleNext = false ∧
      ∀ e ∈ l.transport.device.pending, Fits (Inbound.event e))
    ⟨fun ⟨hc, ha, ho, hg, hp⟩ => ⟨hc, ha, ho, hg, hp⟩,
      fun h => ⟨h.connected, h.agenda, h.offline, h.garbleNext, h.pending⟩⟩

/-- An operation has ended with the result `a` on the same connection, it has handed on the events
raised, and the device is in the state `d` apart from them. -/
structure Completed {α : Type} (l : Link Attended) (a : α) (d : Device) (r : Except LinkError α)
    (l' : Link Attended) : Prop where
  result : r = .ok a
  quiet : Quiet l'
  connected : l'.connected = true
  epoch : l'.epoch = l.epoch
  agenda : l'.transport.agenda = []
  device : l'.transport.device = { d with pending := [] }
  emitted : l'.emitted = l.emitted ++ l.transport.device.pending

theorem Completed.ready {α : Type} {a : α} {d : Device} {r : Except LinkError α}
    (h : Completed l a d r l') (hoff : d.offline = false) (hg : d.garbleNext = false) :
    Ready l' := by
  refine ⟨h.connected, h.agenda, ?_, ?_, ?_⟩ <;> rw [h.device]
  · exact hoff
  · exact hg
  · exact nofun

theorem Completed.log {α : Type} {a : α} {d : Device} {r : Except LinkError α}
    (h : Completed l a d r l') :
    l'.emitted ++ l'.transport.device.pending = l.emitted ++ l.transport.device.pending := by
  rw [h.device, h.emitted]
  exact List.append_nil _

theorem answerPayloads_eq {d : Device} (hg : d.garbleNext = false)
    (hp : ∀ e ∈ d.pending, Fits (Inbound.event e)) (hreply : Fits (Inbound.reply reply)) :
    Channel.answerPayloads d reply = announced d.pending ++ [pack (Inbound.reply reply)] := by
  rw [Channel.answerPayloads, payloads_eq_announced hp, hg, Channel.payloadOf,
    if_pos hreply.inbound]
  rfl

/-- An exchange is a call of the device. -/
theorem ends_exchange_direct {q : Applet.Request} (h : Quiet l) (hr : Ready l) (hq : Fits q)
    (hreply : Fits (Inbound.reply (l.transport.device.handle q).1)) :
    Ends (exchange q) l
      (Completed l (l.transport.device.handle q).1 (l.transport.device.handle q).2) := by
  obtain ⟨f, hf⟩ := hq.request
  have hc := hr.connected
  have hsame := Device.sameSettings_handle l.transport.device q
  have hpending : (l.transport.device.handle q).2.pending = l.transport.device.pending :=
    hsame.pending
  simp only [exchange, ends_bind, ends_get, andThen_ok, hc, hf, Bool.not_true, Bool.false_eq_true,
    if_false]
  rw [ends_orReset]
  simp only [roundTrip, ends_bind]
  refine (ends_sendFrame h hc hf).mono fun r l' => ?_
  rintro ⟨b, hb, ⟨_, hoff, _⟩ | ⟨rfl, rfl⟩⟩
  · obtain rfl := hb.eq_of_idle hr.agenda
    exact absurd (hr.offline.symm.trans hoff) Bool.false_ne_true
  · obtain rfl := hb.eq_of_idle hr.agenda
    have hread := reading_answered h hc hb q
    rw [answerPayloads_eq (hsame.garbleNext.trans hr.garbleNext) (hpending ▸ hr.pending) hreply,
      hpending] at hread
    simp only [andThen_ok, ends_bind, ends_get]
    have hlimit : (answered q l.transport).channel.toCome.length <
        Transport.backlog (answered q l.transport) + 1 := by
      rw [Channel.length_toCome]
      exact Nat.lt_succ_self _
    refine (ends_awaitReply_direct hr.pending hreply hread hlimit).mono fun r l' => ?_
    rintro ⟨hreads, rfl, hem, hnil⟩
    have hquiet : Quiet l' := h.of_reads hc hread.connected rfl hreads hnil
    obtain ⟨c, d, es, rfl, out, pending, rfl, hp⟩ := hreads
    obtain rfl : pending = [] := hp.elim id id
    refine ⟨rfl, hquiet, hc, rfl, hr.agenda, ?_, hem⟩
    have hg : (l.transport.device.handle q).2.garbleNext = false :=
      hsame.garbleNext.trans hr.garbleNext
    show { (l.transport.device.handle q).2 with pending := [], garbleNext := false } = _
    rw [← hg]

/-- Handing events on leaves the device as it is. -/
theorem ends_pollEvents_direct (h : Quiet l) (hr : Ready l) :
    Ends pollEvents l (Completed l l.transport.device.pending.length l.transport.device) := by
  have hc := hr.connected
  have hread := h.reading hc
  rw [payloads_eq_announced hr.pending] at hread
  have hlimit : l.transport.channel.toCome.length < Transport.backlog l.transport + 1 := by
    rw [Channel.length_toCome]
    exact Nat.lt_succ_self _
  simp only [pollEvents, ends_bind, ends_get, andThen_ok, hc, Bool.not_true, Bool.false_eq_true,
    if_false]
  rw [ends_orReset]
  refine (ends_drainEvents_direct hr.pending hr.pending hread hlimit).mono fun r l' => ?_
  rintro ⟨hreads, rfl, hem, hnil⟩
  have hquiet : Quiet l' := h.of_reads hc (h.connected.trans hc) h.inbox hreads hnil
  have hpend : l'.transport.device.pending = [] :=
    pending_of_toCome (hreads.pending hr.pending) hnil.eq_nil.2
  obtain ⟨c, d, es, rfl, out, pending, rfl, hp⟩ := hreads
  obtain rfl : pending = [] := hpend
  exact ⟨congrArg Except.ok (Nat.zero_add _), hquiet, hc, rfl, hr.agenda, rfl, hem⟩

/-! ## Runs -/

/-- A link that has not been used, to a device with some apps installed. -/
def toDevice (apps : List String) (client : Guid) (agenda : List (List Control)) :
    Link Attended :=
  { transport := { channel := { device := .ofApps apps }, agenda }, client }

/-- However a step ends, it leaves a quiet link quiet. -/
theorem Quiet.apply (s : Step Control) (h : Quiet l) : Quiet (s.apply Attended.operate l) := by
  cases s with
  | connect =>
    refine (ends_connect h).mono (R := fun _ => Quiet) fun r l' hend => ?_
    rcases hend with ⟨_, _, rfl⟩ | ⟨_, hover, _⟩
    · exact h
    · exact hover.quiet
  | disconnect => exact (quiet_disconnect h).1
  | exchange q =>
    refine (ends_exchange h q).mono (R := fun _ => Quiet) fun r l' hend => ?_
    cases hend with
    | down _ | unsent _ _ => exact h
    | served _ _ quiet _ _ _ _ => exact quiet
    | lost _ _ _ _ _ anew => exact anew.quiet
  | pollEvents =>
    refine (ends_pollEvents h).mono (R := fun _ => Quiet) fun r l' hend => ?_
    rcases hend with ⟨_, _, hquiet, _⟩ | ⟨_, _, hover⟩
    · exact hquiet
    · exact hover.quiet
  | outside c =>
    exact ⟨h.connected, h.inbox, h.outbox, h.decoder, h.room, fun hc =>
      (h.closed hc).of_sameSessions (Device.SameSessions.apply c l.transport.device)⟩

theorem quiet_afterSteps (apps : List String) (client : Guid) (agenda : List (List Control))
    (steps : List (Step Control)) :
    Quiet (afterSteps Attended.operate steps (toDevice apps client agenda)) :=
  afterSteps_induction _ (fun s _ h => h.apply s) steps
    ⟨rfl, rfl, rfl, rfl, nofun, fun _ => ⟨rfl, rfl, rfl⟩⟩

/-- The step is an operation or something that the operator does other than to set up a fault, and
its messages fit into frames. -/
def Step.Unhindered (l : Link Attended) : Step Control → Prop
  | .exchange q => Fits q ∧ Fits (Inbound.reply (l.transport.device.handle q).1)
  | .pollEvents => True
  | .outside (.inject app data) => Fits (Inbound.event ⟨app, data, .applet⟩)
  | .outside (.refuse _) | .outside (.install _) => True
  | .connect | .disconnect | .outside .garble | .outside (.offline _) => False

instance Step.decidableUnhindered (l : Link Attended) :
    (s : Step Control) → Decidable (s.Unhindered l)
  | .exchange q => inferInstanceAs (Decidable (Fits q ∧ Fits (Inbound.reply _)))
  | .outside (.inject _ _) => inferInstanceAs (Decidable (Fits (Inbound.event _)))
  | .pollEvents | .outside (.refuse _) | .outside (.install _) => isTrue trivial
  | .connect | .disconnect | .outside .garble | .outside (.offline _) => isFalse id

/-- Each step of a run is unhindered when its turn comes. -/
def Unhindered : List (Step Control) → Link Attended → Prop
  | [], _ => True
  | s :: steps, l => s.Unhindered l ∧ Unhindered steps (s.apply Attended.operate l)

instance decidableUnhindered : (steps : List (Step Control)) → (l : Link Attended) →
    Decidable (Unhindered steps l)
  | [], _ => isTrue trivial
  | s :: steps, l =>
    have := decidableUnhindered steps (s.apply Attended.operate l)
    inferInstanceAs (Decidable (s.Unhindered l ∧ Unhindered steps _))

/-- The event that a step raises. -/
def Step.raised : Step Control → List Event
  | .outside (.inject app data) => [⟨app, data, .applet⟩]
  | _ => []

/-- An unhindered step leaves the link ready on the same connection, and no event is lost. -/
theorem Ready.apply {s : Step Control} (h : Quiet l) (hr : Ready l) (hs : s.Unhindered l) :
    let l' := s.apply Attended.operate l
    Ready l' ∧ l'.epoch = l.epoch ∧ l'.emitted ++ l'.transport.device.pending =
      l.emitted ++ l.transport.device.pending ++ s.raised := by
  cases s with
  | exchange q =>
    have hsame := Device.sameSettings_handle l.transport.device q
    have hend := ends_exchange_direct h hr hs.1 hs.2
    exact ⟨hend.ready (hsame.offline.trans hr.offline) (hsame.garbleNext.trans hr.garbleNext),
      hend.epoch, hend.log.trans (List.append_nil _).symm⟩
  | pollEvents =>
    have hend := ends_pollEvents_direct h hr
    exact ⟨hend.ready hr.offline hr.garbleNext, hend.epoch,
      hend.log.trans (List.append_nil _).symm⟩
  | outside c =>
    cases c with
    | inject app data =>
      refine ⟨⟨hr.connected, hr.agenda, hr.offline, hr.garbleNext, fun e he => ?_⟩, rfl,
        (List.append_assoc ..).symm⟩
      exact (List.mem_append.mp he).elim (hr.pending e) fun he => by
        obtain rfl := List.mem_singleton.mp he
        exact hs
    | refuse code | install app =>
      exact ⟨⟨hr.connected, hr.agenda, hr.offline, hr.garbleNext, hr.pending⟩, rfl,
        (List.append_nil _).symm⟩
    | garble | offline on => exact hs.elim
  | connect | disconnect => exact hs.elim

/-- Unhindered runs leave the link ready on the same connection, and no event is lost. -/
theorem ready_afterSteps {steps : List (Step Control)} (h : Quiet l) (hr : Ready l)
    (hs : Unhindered steps l) :
    let l' := afterSteps Attended.operate steps l
    Ready l' ∧ l'.epoch = l.epoch ∧ l'.emitted ++ l'.transport.device.pending =
      l.emitted ++ l.transport.device.pending ++ steps.flatMap Step.raised := by
  induction steps generalizing l with
  | nil => exact ⟨hr, rfl, (List.append_nil _).symm⟩
  | cons s steps ih =>
    obtain ⟨hr₁, hepoch₁, hlog₁⟩ := hr.apply h hs.1
    obtain ⟨hr', hepoch, hlog⟩ := ih (h.apply s) hr₁ hs.2
    refine ⟨hr', hepoch.trans hepoch₁, hlog.trans ?_⟩
    rw [hlog₁, List.append_assoc, List.flatMap_cons]

/-- Whatever happened to a link, once it is ready an unhindered run of operations calls the device
directly: after any part of it an exchange gives the reply that the device gives in its present
state, and the events handed on are counted. They come out in the order in which they were raised:
those handed on, followed by those not sent yet, are the ones of before and the ones raised in the
run, and nothing is left half sent or half received. -/
theorem direct_calls {apps : List String} {client : Guid} {agenda : List (List Control)}
    {before steps : List (Step Control)}
    (hr : Ready (afterSteps Attended.operate before (toDevice apps client agenda)))
    (hs : Unhindered steps (afterSteps Attended.operate before (toDevice apps client agenda))) :
    let l := afterSteps Attended.operate before (toDevice apps client agenda)
    let l' := afterSteps Attended.operate steps l
    l'.connected = true ∧ l'.epoch = l.epoch ∧ l'.decoder = {} ∧
      l'.transport.channel.outbox = [] ∧ l'.transport.channel.inbox = {} ∧
      l'.emitted ++ l'.transport.device.pending =
        l.emitted ++ l.transport.device.pending ++ steps.flatMap Step.raised ∧
      (∀ q, Fits q → Fits (Inbound.reply (l'.transport.device.handle q).1) →
        Ends (exchange q) l' fun r l'' =>
          r = .ok (l'.transport.device.handle q).1 ∧
          l''.transport.device = { (l'.transport.device.handle q).2 with pending := [] } ∧
          l''.epoch = l'.epoch) ∧
      Ends pollEvents l' fun r l'' => ∃ es, r = .ok es.length ∧ l''.emitted = l'.emitted ++ es ∧
        l''.transport.device = { l'.transport.device with pending := [] } ∧
        l''.epoch = l'.epoch := by
  intro l l'
  obtain ⟨hr', hepoch, hlog⟩ := ready_afterSteps (quiet_afterSteps apps client agenda before) hr hs
  have hquiet : Quiet l' :=
    afterSteps_induction _ (fun s _ h => h.apply s) steps
      (quiet_afterSteps apps client agenda before)
  refine ⟨hr'.connected, hepoch, hquiet.decoder, hquiet.outbox, hquiet.inbox, hlog, ?_, ?_⟩
  · intro q hq hreply
    exact (ends_exchange_direct hquiet hr' hq hreply).mono fun _ _ hend =>
      ⟨hend.result, hend.device, hend.epoch⟩
  · exact (ends_pollEvents_direct hquiet hr').mono fun _ _ hend =>
      ⟨_, hend.result, hend.emitted, hend.device, hend.epoch⟩

/-- Of two events, the one raised before an exchange has come out and the other has not. -/
theorem direct_calls_events :
    ∃ l l', l = afterSteps Attended.operate [.connect] (toDevice ["a"] Guid.nil []) ∧
      l' = afterSteps Attended.operate [.outside (.inject "a" [9]),
        .exchange (.openSession "a" false), .outside (.inject "a" [7])] l ∧
      Ready l ∧ l'.connected = true ∧ l'.emitted = [⟨"a", [9], .applet⟩] ∧
      l'.transport.device.pending = [⟨"a", [7], .applet⟩] := by
  refine ⟨_, _, rfl, rfl, ?_⟩
  have hr : Ready (afterSteps Attended.operate [.connect] (toDevice ["a"] Guid.nil [])) := by
    decide +kernel
  have hs : Unhindered [.outside (.inject "a" [9]), .exchange (.openSession "a" false),
      .outside (.inject "a" [7])]
      (afterSteps Attended.operate [.connect] (toDevice ["a"] Guid.nil [])) := by
    decide +kernel
  exact ⟨hr, (direct_calls hr hs).1, by decide +kernel, by decide +kernel⟩

end Link

end AppletGateway
