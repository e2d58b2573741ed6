import AppletGateway.Proofs.Pieces
import AppletGateway.Proofs.Resets

/-!
# Exchanges over a channel that cuts messages

A channel may take any part of a message that it is offered, and it may hand over what comes in in
pieces of any length. None of this shows in an exchange: the frame of the request arrives once and
in order, and what the exchange ends with and which events it hands on are read off the incoming
bytes as a whole, `Link.told`. A call that fails before the reply has been read ends the exchange.

The calls are looked up in the record of an observed channel. What a channel still has to hand over
is said by `Link.Hands`, a relation that follows its answers one by one.

Results:
* `Link.transmits_sendFrame`: what is sent of a frame, and how sending ends.
* `Link.ends_awaitReply_told`: waiting for a reply ends as the bytes tell that are handed over.
* `Link.exchange_ignores_cuts`: an exchange over a channel that obliges, and over any other.
-/

namespace AppletGateway

open AppletGateway.Frame (Decoder)
open Applet (Event Inbound)
open Scripted (Call)

/-- The call has failed: with an error, or because no byte went through. -/
def Scripted.Call.Failed : Call → Prop
  | .send _ answer | .receive _ answer => answer = none ∨ answer = some 0
  | .connect _ _ | .disconnect => False

namespace Link

/-! ## What a stream tells -/

/-- What payloads tell, behind which a header may be bad: the events in front of the first reply and
this reply. Without a reply it is an error that a payload or the header cannot be read, or that no
more has come. -/
def read : List Bytes → Option Frame.Error → List Event × Except LinkError Applet.Reply
  | [], none => ([], .error .transport)
  | [], some _ => ([], .error .malformed)
  | p :: ps, bad =>
    match Packed.read? p with
    | none => ([], .error .malformed)
    | some (Inbound.reply r) => ([], .ok r)
    | some (Inbound.event e) => (e :: (read ps bad).1, (read ps bad).2)

/-- What a stream of bytes tells. -/
def told (stream : Bytes) : List Event × Except LinkError Applet.Reply :=
  let out := Decoder.drain ⟨none, stream⟩
  read out.1 out.2.1

theorem read_cons (p : Bytes) (ps : List Bytes) (bad : Option Frame.Error) :
    read (p :: ps) bad = match (Packed.read? p : Option Inbound) with
      | none => ([], .error .malformed)
      | some (.reply r) => ([], .ok r)
      | some (.event e) => (e :: (read ps bad).1, (read ps bad).2) := by
  rw [read.eq_def]

/-- More payloads tell what comes next if the first ones hold no more than events. -/
theorem read_append_of_open {ps : List Bytes} (h : (read ps none).2 = .error .transport)
    (qs : List Bytes) (bad : Option Frame.Error) :
    read (ps ++ qs) bad = ((read ps none).1 ++ (read qs bad).1, (read qs bad).2) := by
  induction ps with
  | nil => rfl
  | cons p ps ih =>
    rw [read_cons] at h
    rw [List.cons_append, read_cons, read_cons]
    cases hp : (Packed.read? p : Option Inbound) with
    | none =>
      rw [hp] at h
      cases h
    | some inbound =>
      rw [hp] at h
      cases inbound with
      | reply r => cases h
      | event e =>
        dsimp only at h ⊢
        rw [ih h]
        rfl

/-- They tell nothing more otherwise. -/
theorem read_append_of_closed {ps : List Bytes} (h : (read ps none).2 ≠ .error .transport)
    (qs : List Bytes) (bad : Option Frame.Error) : read (ps ++ qs) bad = read ps none := by
  induction ps with
  | nil => exact absurd rfl h
  | cons p ps ih =>
    rw [read_cons] at h
    rw [List.cons_append, read_cons, read_cons]
    cases hp : (Packed.read? p : Option Inbound) with
    | none => rfl
    | some inbound =>
      rw [hp] at h
      cases inbound with
      | reply r => rfl
      | event e =>
        dsimp only at h ⊢
        rw [ih h]

/-! ## Reading what is buffered -/

section

variable {τ : Type} {l : Link τ}

/-- What the answer of a decoder is read as. -/
def inboundIn : Except Frame.Error (Option Bytes) → Except LinkError (Option Inbound)
  | .error _ => .error .malformed
  | .ok none => .ok none
  | .ok (some p) => match Packed.read? p with
    | some inbound => .ok (some inbound)
    | none => .error .malformed

theorem ends_nextInbound_eq {Q : Except LinkError (Option Inbound) → Link τ → Prop} :
    Ends nextInbound l Q =
      Q (inboundIn l.decoder.next.1) { l with decoder := l.decoder.next.2 } := by
  simp only [nextInbound, ends_bind, ends_get, andThen_ok, ends_set]
  rcases l.decoder.next with ⟨e | _ | p, d⟩
  · rfl
  · rfl
  · rw [inboundIn]
    dsimp only
    cases (Packed.read? p : Option Inbound) <;> rfl

/-- What a search for a reply among the bytes received ends with if these tell `r`: it is no error
that no reply has come yet. -/
def searched : Except LinkError Applet.Reply → Except LinkError (Option Applet.Reply)
  | .ok reply => .ok (some reply)
  | .error .transport => .ok none
  | .error e => .error e

/-- The link with another decoder, after some events were handed on. -/
def heard (l : Link τ) (d : Decoder) (es : List Event) : Link τ :=
  { l with decoder := d, emitted := l.emitted ++ es }

theorem heard_nil (l : Link τ) (d : Decoder) : { l with decoder := d } = l.heard d [] :=
  congrArg (fun es => { l with decoder := d, emitted := es }) (List.append_nil _).symm

theorem heard_heard (l : Link τ) (d d' : Decoder) (es es' : List Event) :
    (l.heard d es).heard d' es' = l.heard d' (es ++ es') :=
  congrArg (fun es => { l with decoder := d', emitted := es }) (List.append_assoc _ _ _)

/-- The search hands on the events in front of a reply, and without one it goes on until the decoder
is drained. -/
theorem ends_bufferedReply_told {d d' : Decoder} {ps : List Bytes} {bad : Option Frame.Error}
    (h : Decoder.Drains d (ps, bad, d')) (hd : d.Valid) :
    ∀ (limit : Nat) (l : Link τ), l.decoder = d → d.buffered < limit →
      Ends (bufferedReply limit) l fun r l' => r = searched (read ps bad).2 ∧
        ∃ d'', l' = l.heard d'' (read ps bad).1 ∧
          ((read ps bad).2 = .error .transport → d'' = d') := by
  generalize hout : (ps, bad, d') = out at h
  induction h generalizing ps with
  | wait hn =>
    cases hout
    rintro (_ | limit) l rfl hlimit
    · omega
    · rw [bufferedReply, ends_bind, ends_nextInbound_eq, hn]
      exact ⟨rfl, d', heard_nil l d', fun _ => rfl⟩
  | error hn =>
    cases hout
    rintro (_ | limit) l rfl hlimit
    · omega
    · rw [bufferedReply, ends_bind, ends_nextInbound_eq, hn]
      exact ⟨rfl, d', heard_nil l d', nofun⟩
  | @frame d d₁ p ps₁ out hn hrest ih =>
    cases hout
    rintro (_ | limit) l rfl hlimit
    · omega
    have hless := Decoder.buffered_lt_of_next hd hn
    have hvalid := (Decoder.next_feed_frame hd hn []).2
    rw [bufferedReply, ends_bind, ends_nextInbound_eq, hn, read_cons, inboundIn]
    cases (Packed.read? p : Option Inbound) with
    | none => exact ⟨rfl, d₁, heard_nil l d₁, nofun⟩
    | some inbound =>
      cases inbound with
      | reply r => exact ⟨rfl, d₁, heard_nil l d₁, nofun⟩
      | event e =>
        dsimp only
        rw [andThen_ok, ends_bind, emit, ends_modify, andThen_ok]
        refine (ih hvalid rfl limit (l.heard d₁ [e]) rfl (by omega)).mono fun r l' h => ?_
        obtain ⟨hr, d'', rfl, hlast⟩ := h
        exact ⟨hr, d'', heard_heard l d₁ d'' [e] _, hlast⟩

end

/-! ## More bytes -/

section

variable {d d' : Decoder} {ps : List Bytes} {bad : Option Frame.Error} {b : Bytes}
  {out : List Bytes × Option Frame.Error × Decoder}

theorem read_bad_ne_transport (ps : List Bytes) (e : Frame.Error) :
    (read ps (some e)).2 ≠ .error .transport := by
  induction ps with
  | nil => exact nofun
  | cons p ps ih =>
    rw [read_cons]
    cases (Packed.read? p : Option Inbound) with
    | none => exact nofun
    | some inbound =>
      cases inbound with
      | reply r => exact nofun
      | event e' => exact ih

/-- What has been told to the end stays the same with more bytes. -/
theorem read_feed_of_closed (hd : d.Valid) (h : Decoder.Drains d (ps, bad, d'))
    (hclosed : (read ps bad).2 ≠ .error .transport) (hout : Decoder.Drains (d.feed b) out) :
    read out.1 out.2.1 = read ps bad := by
  cases bad with
  | some e =>
    have hsame := hout.unique (h.feed_of_error hd b)
    rw [hsame]
  | none =>
    obtain ⟨_, -, hend⟩ := h.frames hd
    obtain ⟨-, hvalid, -⟩ := hend rfl
    have hmore := Decoder.drains_drain (hvalid.feed b)
    have hsame := hout.unique (h.feed hd hmore)
    rw [hsame]
    exact read_append_of_closed hclosed _ _

/-- Otherwise the drained decoder tells with them what comes next. -/
theorem read_feed_of_open (hd : d.Valid) (h : Decoder.Drains d (ps, bad, d'))
    (hopen : (read ps bad).2 = .error .transport) : d'.Valid ∧
      ∀ {b out}, Decoder.Drains (d.feed b) out → ∃ rest, Decoder.Drains (d'.feed b) rest ∧
        read out.1 out.2.1 = ((read ps bad).1 ++ (read rest.1 rest.2.1).1,
          (read rest.1 rest.2.1).2) := by
  cases bad with
  | some e => exact absurd hopen (read_bad_ne_transport ps e)
  | none =>
    obtain ⟨_, -, hend⟩ := h.frames hd
    obtain ⟨-, hvalid, -⟩ := hend rfl
    refine ⟨hvalid, fun {b out} hout => ?_⟩
    have hmore := Decoder.drains_drain (hvalid.feed b)
    have hsame := hout.unique (h.feed hd hmore)
    refine ⟨_, hmore, ?_⟩
    rw [hsame]
    exact read_append_of_open hopen _ _

end

/-! ## Receiving -/

section

variable {τ : Type} [Transport τ] {room : Nat}

/-- The channel hands over these pieces one after another, and then it fails or is at its end. Of a
piece the link takes what it has room for, filled up with zeros if there is less than reported. -/
inductive Hands (room : Nat) : τ → List Bytes → Prop
  | ended {t : τ} (h : ∀ r, (Transport.receive room t).1 = some r → r.count = 0) : Hands room t []
  | piece {t : τ} {r : Received} {pieces : List Bytes}
    (h : (Transport.receive room t).1 = some r) (hcount : r.count ≠ 0)
    (rest : Hands room (Transport.receive room t).2 pieces) :
    Hands room t (Bytes.resize (min r.count room) r.data :: pieces)

/-- There are no more pieces than messages. -/
theorem Hands.length_le {room : Nat} {t : τ} {pieces : List Bytes} (h : Hands room t pieces)
    {k : Nat} (hk : Transport.GivesAtMost room k t) : pieces.length ≤ k := by
  induction h generalizing k with
  | ended => exact Nat.zero_le k
  | piece hr hcount _ ih =>
    cases k with
    | zero => exact absurd (hk _ hr) hcount
    | succ k => exact Nat.succ_le_succ (ih (hk _ hr hcount))

variable {l : Link τ}

theorem ends_receiveMessage_piece {r : Received} {Q : Except LinkError Unit → Link τ → Prop}
    (h : (Transport.receive l.maxMessage l.transport).1 = some r) (hcount : r.count ≠ 0) :
    Ends receiveMessage l Q = Q (.ok ()) { l with
      transport := (Transport.receive l.maxMessage l.transport).2
      decoder := l.decoder.feed (Bytes.resize (min r.count l.maxMessage) r.data) } := by
  simp only [receiveMessage, ends_bind, ends_get, andThen_ok, ends_set, h, if_neg hcount]
  rfl

theorem ends_receiveMessage_over {Q : Except LinkError Unit → Link τ → Prop}
    (h : ∀ r, (Transport.receive l.maxMessage l.transport).1 = some r → r.count = 0) :
    Ends receiveMessage l Q = Q (.error .transport) { l with
      transport := (Transport.receive l.maxMessage l.transport).2 } := by
  simp only [receiveMessage, ends_bind, ends_get, andThen_ok, ends_set]
  cases hr : (Transport.receive l.maxMessage l.transport).1 with
  | none => rfl
  | some r =>
    dsimp only
    rw [if_pos (h r hr)]
    rfl

variable {d : Decoder} {ps : List Bytes} {bad : Option Frame.Error}

/-- Waiting for a reply ends at once if the bytes received tell the end, and whatever comes behind
them is not looked at. -/
theorem ends_awaitReply_closed (hv : l.decoder.Valid)
    (h : Decoder.Drains l.decoder (ps, bad, d)) (hclosed : (read ps bad).2 ≠ .error .transport)
    (limit : Nat) : Ends (awaitReply (limit + 1)) l fun r l' =>
      (∃ d', l' = l.heard d' (read ps bad).1) ∧
      ∀ b out, Decoder.Drains (l.decoder.feed b) out →
        r = (read out.1 out.2.1).2 ∧ l'.emitted = l.emitted ++ (read out.1 out.2.1).1 := by
  rw [awaitReply, ends_bind, ends_get, andThen_ok, ends_bind]
  refine (ends_bufferedReply_told h hv _ l rfl (Nat.lt_succ_self _)).mono fun r l' hend => ?_
  obtain ⟨rfl, d', rfl, -⟩ := hend
  have htold (b : Bytes) (out : List Bytes × Option Frame.Error × Decoder)
      (hout : Decoder.Drains (l.decoder.feed b) out) : read out.1 out.2.1 = read ps bad :=
    read_feed_of_closed hv h hclosed hout
  cases hr : (read ps bad).2 with
  | ok reply =>
    refine ⟨⟨d', rfl⟩, fun b out hout => ?_⟩
    rw [htold b out hout]
    exact ⟨hr.symm, rfl⟩
  | error e =>
    have hne : e ≠ .transport := fun he => hclosed (he ▸ hr)
    have hsearched : searched (.error e) = .error e := by
      cases e with
      | transport => exact absurd rfl hne
      | notConnected | malformed | encode => rfl
    rw [hsearched, andThen_error]
    refine ⟨⟨d', rfl⟩, fun b out hout => ?_⟩
    rw [htold b out hout]
    exact ⟨hr.symm, rfl⟩

/-- Otherwise it goes on with another message. -/
theorem ends_awaitReply_open (hv : l.decoder.Valid)
    (h : Decoder.Drains l.decoder (ps, bad, d)) (hopen : (read ps bad).2 = .error .transport)
    (limit : Nat) {Q : Except LinkError Applet.Reply → Link τ → Prop}
    (hQ : Ends (receiveMessage >>= fun _ => awaitReply limit) (l.heard d (read ps bad).1) Q) :
    Ends (awaitReply (limit + 1)) l Q := by
  rw [awaitReply, ends_bind, ends_get, andThen_ok, ends_bind]
  refine (ends_bufferedReply_told h hv _ l rfl (Nat.lt_succ_self _)).mono fun r l' hend => ?_
  obtain ⟨rfl, d', rfl, hlast⟩ := hend
  obtain rfl := hlast hopen
  rw [hopen]
  exact hQ

/-- Waiting for a reply ends as the bytes tell that are handed over, if the bound on the number of
messages is one. -/
theorem ends_awaitReply_told {t : τ} {pieces : List Bytes} (h : Hands room t pieces) :
    ∀ (limit : Nat) (l : Link τ), l.transport = t → l.maxMessage = room → l.decoder.Valid →
      pieces.length < limit → Ends (awaitReply limit) l fun r l' =>
        ∀ out, Decoder.Drains (l.decoder.feed pieces.flatten) out →
          r = (read out.1 out.2.1).2 ∧ l'.emitted = l.emitted ++ (read out.1 out.2.1).1 := by
  induction h with
  | ended h =>
    rintro (_ | limit) l rfl rfl hv hlimit
    · omega
    have hdrains := Decoder.drains_drain hv
    generalize l.decoder.drain = drained at hdrains
    obtain ⟨ps, bad, d⟩ := drained
    by_cases hopen : (read ps bad).2 = .error .transport
    · refine ends_awaitReply_open hv hdrains hopen limit ?_
      rw [ends_bind, ends_receiveMessage_over (l := l.heard d _) h, andThen_error]
      intro out hout
      have hnothing : l.decoder.feed [].flatten = l.decoder :=
        congrArg (fun b => { l.decoder with pending := b }) (List.append_nil _)
      rw [hnothing] at hout
      obtain rfl := hout.unique hdrains
      exact ⟨hopen.symm, rfl⟩
    · exact (ends_awaitReply_closed hv hdrains hopen limit).mono fun r l' hend => hend.2 _
  | @piece t r pieces h hcount rest ih =>
    rintro (_ | limit) l rfl rfl hv hlimit
    · omega
    have hdrains := Decoder.drains_drain hv
    generalize l.decoder.drain = drained at hdrains
    obtain ⟨ps, bad, d⟩ := drained
    by_cases hopen : (read ps bad).2 = .error .transport
    · refine ends_awaitReply_open hv hdrains hopen limit ?_
      obtain ⟨hvalid, hmore⟩ := read_feed_of_open hv hdrains hopen
      rw [ends_bind, ends_receiveMessage_piece (l := l.heard d _) h hcount, andThen_ok]
      refine Ends.mono (ih limit _ rfl rfl (hvalid.feed _) ?_) fun r' l' hend out hout => ?_
      · rw [List.length_cons] at hlimit
        omega
      · obtain ⟨rest, hrest, hread⟩ := hmore hout
        rw [List.flatten_cons, Decoder.feed_append] at hrest
        obtain ⟨hr, hemitted⟩ := hend rest hrest
        rw [hread]
        refine ⟨hr, hemitted.trans ?_⟩
        exact List.append_assoc l.emitted _ _
    · exact (ends_awaitReply_closed hv hdrains hopen limit).mono fun r l' hend => hend.2 _

end

/-! ## The calls of an exchange -/

section

variable {τ : Type} [Transport τ] {l : Link (Observed τ)}

/-- What was taken of the messages offered, one byte after another. -/
def accepted (calls : List Call) : Bytes :=
  calls.flatMap fun
    | .send m (some n) => m.take n
    | _ => []

theorem accepted_append (calls calls' : List Call) :
    accepted (calls ++ calls') = accepted calls ++ accepted calls' := List.flatMap_append

/-- The channel is sent messages of at most `room` bytes, none of them empty. -/
inductive Sends (room : Nat) : τ → List Call → τ → Prop
  | nil (t : τ) : Sends room t [] t
  | cons {t t' : τ} {m : Bytes} {calls : List Call} (hne : m ≠ []) (hroom : m.length ≤ room)
    (rest : Sends room (Transport.send m t).2 calls t') :
    Sends room t (.send m (Transport.send m t).1 :: calls) t'

theorem Sends.append {room : Nat} {t t' t'' : τ} {calls calls' : List Call}
    (h : Sends room t calls t') (h' : Sends room t' calls' t'') :
    Sends room t (calls ++ calls') t'' := by
  induction h with
  | nil => exact h'
  | cons hne hroom _ ih => exact .cons hne hroom (ih h')

theorem Sends.offers {room : Nat} {t t' : τ} {calls : List Call} (h : Sends room t calls t') :
    ∀ c ∈ calls, ∃ m answer, c = .send m answer ∧ m ≠ [] ∧ m.length ≤ room := by
  induction h with
  | nil => exact nofun
  | cons hne hroom _ ih => exact List.forall_mem_cons.mpr ⟨⟨_, _, rfl, hne, hroom⟩, ih⟩

/-- How bytes are sent: all of them are taken, or a call has failed after some. -/
inductive Transmitted (b : Bytes) (calls : List Call) : Except LinkError Unit → Prop
  | whole (h : ∀ c ∈ calls, ¬ c.Failed) (ha : accepted calls = b) : Transmitted b calls (.ok ())
  | broken (h : ∃ c ∈ calls, c.Failed) (ha : accepted calls <+: b) :
    Transmitted b calls (.error .transport)

theorem Transmitted.append {b b' : Bytes} {calls calls' : List Call} {r : Except LinkError Unit}
    (h : Transmitted b calls (.ok ())) (h' : Transmitted b' calls' r) :
    Transmitted (b ++ b') (calls ++ calls') r := by
  cases h with
  | whole h ha =>
    cases h' with
    | whole h' ha' =>
      refine .whole (fun c hc => ?_) ?_
      · exact (List.mem_append.mp hc).elim (h c) (h' c)
      · rw [accepted_append, ha, ha']
    | broken h' ha' =>
      obtain ⟨c, hc, hfailed⟩ := h'
      refine .broken ⟨c, List.mem_append_right calls hc, hfailed⟩ ?_
      rw [accepted_append, ha]
      exact (List.prefix_append_right_inj b).mpr ha'

/-- From `l` to `l'` the channel was sent messages, and they were to be these bytes. -/
def Transmits (b : Bytes) (l : Link (Observed τ)) (r : Except LinkError Unit)
    (l' : Link (Observed τ)) : Prop :=
  ∃ calls t, l' = { l with transport := ⟨t, l.transport.calls ++ calls⟩ } ∧
    Sends l.maxMessage l.transport.channel calls t ∧ Transmitted b calls r

theorem transmits_nil (l : Link (Observed τ)) : Transmits [] l (.ok ()) l :=
  ⟨[], l.transport.channel, by rw [List.append_nil], .nil _, .whole nofun rfl⟩

theorem Transmits.append {b b' : Bytes} {l l' l'' : Link (Observed τ)} {r : Except LinkError Unit}
    (h : Transmits b l (.ok ()) l') (h' : Transmits b' l' r l'') :
    Transmits (b ++ b') l r l'' := by
  obtain ⟨calls, t, rfl, hsends, hsent⟩ := h
  obtain ⟨calls', t', rfl, hsends', hsent'⟩ := h'
  refine ⟨calls ++ calls', t', by rw [List.append_assoc], hsends.append hsends', ?_⟩
  exact hsent.append hsent'

theorem Transmits.broken_append {b : Bytes} {l l' : Link (Observed τ)} {e : LinkError}
    (h : Transmits b l (.error e) l') (b' : Bytes) : Transmits (b ++ b') l (.error e) l' := by
  obtain ⟨calls, t, hl, hsends, hsent⟩ := h
  refine ⟨calls, t, hl, hsends, ?_⟩
  cases hsent with
  | broken h ha => exact .broken h (ha.trans (List.prefix_append b b'))

/-- The link after one call that sends. -/
def afterSend (l : Link (Observed τ)) (m : Bytes) : Link (Observed τ) :=
  { l with transport := (Transport.send m l.transport).2 }

variable {m : Bytes}

theorem sends_single (hne : m ≠ []) (hroom : m.length ≤ l.maxMessage) :
    Sends l.maxMessage l.transport.channel
      [.send m (Transport.send m l.transport.channel).1]
      (Transport.send m l.transport.channel).2 := .cons hne hroom (.nil _)

/-- A call that takes a part of a message has sent this part. -/
theorem transmits_part (hne : m ≠ []) (hroom : m.length ≤ l.maxMessage) {n : Nat}
    (htaken : (Transport.send m l.transport.channel).1 = some (n + 1)) :
    Transmits (m.take (n + 1)) l (.ok ()) (l.afterSend m) := by
  refine ⟨_, _, rfl, sends_single hne hroom, ?_⟩
  rw [htaken]
  refine .whole (List.forall_mem_singleton.mpr ?_) ?_
  · rintro (h | h) <;> cases h
  · exact List.append_nil _

/-- A call that takes nothing breaks the sending of a message off. -/
theorem transmits_nothing (hne : m ≠ []) (hroom : m.length ≤ l.maxMessage)
    (htaken : (Transport.send m l.transport.channel).1 = none ∨
      (Transport.send m l.transport.channel).1 = some 0) :
    Transmits m l (.error .transport) (l.afterSend m) := by
  refine ⟨_, _, rfl, sends_single hne hroom, .broken ⟨_, List.mem_singleton_self _, htaken⟩ ?_⟩
  rcases htaken with h | h
  · rw [h]
    exact List.nil_prefix
  · rw [h]
    exact List.nil_prefix

/-- A message is sent in one or more parts. -/
theorem transmits_sendMessage (limit : Nat) : ∀ (message : Bytes) (l : Link (Observed τ)),
    message.length ≤ limit → message.length ≤ l.maxMessage →
      Ends (sendMessage limit message) l (Transmits message l) := by
  induction limit with
  | zero =>
    intro message l hlimit _
    obtain rfl := List.length_eq_zero_iff.mp (Nat.le_zero.mp hlimit)
    exact transmits_nil l
  | succ limit ih =>
    rintro (_ | ⟨x, message⟩) l hlimit hroom
    · exact transmits_nil l
    have hne := List.cons_ne_nil x message
    simp only [sendMessage, ends_bind, ends_get, andThen_ok, ends_set]
    have hobserved : (Transport.send (x :: message) l.transport).1 =
      (Transport.send (x :: message) l.transport.channel).1 := rfl
    rw [hobserved]
    cases htaken : (Transport.send (x :: message) l.transport.channel).1 with
    | none => exact transmits_nothing hne hroom (.inl htaken)
    | some n =>
      cases n with
      | zero => exact transmits_nothing hne hroom (.inr htaken)
      | succ n =>
        have hpart := transmits_part hne hroom htaken
        have hless : ((x :: message).drop (n + 1)).length ≤ message.length := by
          rw [List.drop_succ_cons, List.length_drop]
          exact Nat.sub_le _ _
        rw [List.length_cons] at hlimit hroom
        refine (ih ((x :: message).drop (n + 1)) (l.afterSend (x :: message)) (by omega) ?_).mono
          fun r l' hrest => ?_
        · show _ ≤ l.maxMessage
          omega
        · have hboth := hpart.append hrest
          rwa [List.take_append_drop] at hboth

theorem transmits_messages (ms : List Bytes) : ∀ l : Link (Observed τ),
    (∀ m ∈ ms, m.length ≤ l.maxMessage) →
      Ends (ms.forM fun message => sendMessage message.length message) l
        (Transmits ms.flatten l) := by
  induction ms with
  | nil => exact fun l _ => transmits_nil l
  | cons m ms ih =>
    intro l hroom
    show Ends (sendMessage m.length m >>= fun _ => _) l _
    rw [ends_bind]
    refine (transmits_sendMessage m.length m l (Nat.le_refl _)
      (hroom m List.mem_cons_self)).mono fun r l' hm => ?_
    rw [List.flatten_cons]
    cases r with
    | error e => exact hm.broken_append _
    | ok _ =>
      have hsame : l'.maxMessage = l.maxMessage := by
        obtain ⟨_, _, rfl, _⟩ := hm
        rfl
      rw [andThen_ok]
      refine (ih l' fun m' hm' => ?_).mono fun r l'' hms => hm.append hms
      rw [hsame]
      exact hroom m' (List.mem_cons_of_mem m hm')

/-- A frame is sent in messages of which each has room, and all of it is taken or a call fails. -/
theorem transmits_sendFrame (hroom : 0 < l.maxMessage) (frame : Bytes) :
    Ends (sendFrame frame) l (Transmits frame l) := by
  rw [sendFrame, ends_bind, ends_get, andThen_ok]
  have hmessages := transmits_messages (Bytes.chunks l.maxMessage frame) l fun m hm =>
    Bytes.length_le_of_mem_chunksUpTo hm
  rwa [Bytes.flatten_chunks hroom] at hmessages

/-- What a channel hands over it hands over under observation. -/
theorem Hands.observed {room : Nat} {t : τ} {pieces : List Bytes} (h : Hands room t pieces) :
    ∀ o : Observed τ, o.channel = t → Hands room o pieces := by
  induction h with
  | ended h =>
    rintro o rfl
    exact .ended h
  | piece h hcount _ ih =>
    rintro o rfl
    exact .piece h hcount (ih _ rfl)

/-- From `l` to `l'` the channel was only received from, and no call has failed but the last one if
this is what has gone wrong. -/
def Awaits (l : Link (Observed τ)) (r : Except LinkError Applet.Reply) (l' : Link (Observed τ)) :
    Prop :=
  ∃ receives, l'.transport.calls = l.transport.calls ++ receives ∧
    (∀ c ∈ receives, ∃ answer, c = .receive l.maxMessage answer) ∧
    ((∃ c ∈ receives, c.Failed) → r = .error .transport)

omit [Transport τ] in
theorem awaits_nothing {r : Except LinkError Applet.Reply} {l' : Link (Observed τ)}
    (h : l'.transport = l.transport) : Awaits l r l' := by
  refine ⟨[], by rw [h, List.append_nil], nofun, ?_⟩
  rintro ⟨c, hc, _⟩
  cases hc

/-- To wait for a reply takes calls that receive, and one that fails ends it. -/
theorem awaits_awaitReply (limit : Nat) : ∀ l : Link (Observed τ), l.decoder.Valid →
    Ends (awaitReply limit) l (Awaits l) := by
  induction limit with
  | zero => exact fun l _ => awaits_nothing rfl
  | succ limit ih =>
    intro l hv
    have hdrains := Decoder.drains_drain hv
    generalize l.decoder.drain = drained at hdrains
    obtain ⟨ps, bad, d⟩ := drained
    by_cases hopen : (read ps bad).2 = .error .transport
    · refine ends_awaitReply_open hv hdrains hopen limit ?_
      have hvalid := (read_feed_of_open hv hdrains hopen).1
      rw [ends_bind]
      by_cases hover : ∀ r, (Transport.receive l.maxMessage l.transport).1 = some r → r.count = 0
      · rw [ends_receiveMessage_over (l := l.heard d _) hover, andThen_error]
        exact ⟨[_], rfl, List.forall_mem_singleton.mpr ⟨_, rfl⟩, fun _ => rfl⟩
      · obtain ⟨r, hr, hcount⟩ : ∃ r, (Transport.receive l.maxMessage l.transport).1 = some r ∧
            r.count ≠ 0 := by
          simpa using hover
        rw [ends_receiveMessage_piece (l := l.heard d _) hr hcount, andThen_ok]
        refine Ends.mono (ih _ (hvalid.feed _)) fun r' l' hrest => ?_
        obtain ⟨receives, hcalls, hreceives, hfailed⟩ := hrest
        refine ⟨.receive l.maxMessage ((Transport.receive l.maxMessage l.transport.channel).1.map
          Received.count) :: receives, ?_, List.forall_mem_cons.mpr ⟨⟨_, rfl⟩, hreceives⟩, ?_⟩
        · exact hcalls.trans (List.append_assoc l.transport.calls [_] receives)
        · rintro ⟨c, hc, hfail⟩
          rcases List.mem_cons.mp hc with rfl | hc
          · have hsome : (Transport.receive l.maxMessage l.transport.channel).1 = some r := hr
            rw [hsome] at hfail
            rcases hfail with hfail | hfail
            · cases hfail
            · exact absurd (Option.some.inj hfail) hcount
          · exact hfailed ⟨c, hc, hfail⟩
    · refine (ends_awaitReply_closed hv hdrains hopen limit).mono fun r l' hend => ?_
      obtain ⟨⟨d', rfl⟩, _⟩ := hend
      exact awaits_nothing rfl

/-! ## Exchanges -/

/-- A channel that takes something of every message, and has this stream to hand over once it has
taken the frame. What it has come to is told by a property of the bytes taken and the channel. -/
structure Obliging (frame stream : Bytes) (room : Nat) (I : Bytes → τ → Prop) : Prop where
  takes : ∀ b t m, I b t → m ≠ [] → m.length ≤ room →
    ∃ n, (Transport.send m t).1 = some (n + 1) ∧ I (b ++ m.take (n + 1)) (Transport.send m t).2
  hands : ∀ t, I frame t → ∃ pieces, Hands room t pieces ∧ pieces.flatten = stream
  /-- The bound that the channel gives holds. -/
  bounded : ∀ t, I frame t → Transport.GivesAtMost room (Transport.backlog t) t

/-- While it is sent messages, an obliging channel takes what it is sent. -/
theorem Obliging.sends {frame stream : Bytes} {room : Nat} {I : Bytes → τ → Prop}
    (hI : Obliging frame stream room I) {t t' : τ} {calls : List Call}
    (h : Sends room t calls t') : ∀ b, I b t →
      (∀ c ∈ calls, ¬ c.Failed) ∧ I (b ++ accepted calls) t' := by
  induction h with
  | nil t =>
    intro b hb
    refine ⟨nofun, ?_⟩
    rwa [show accepted [] = [] from rfl, List.append_nil]
  | @cons t t' m calls hne hroom _ ih =>
    intro b hb
    obtain ⟨n, htaken, hnext⟩ := hI.takes b t m hb hne hroom
    obtain ⟨hall, hlast⟩ := ih _ hnext
    rw [htaken]
    refine ⟨List.forall_mem_cons.mpr ⟨?_, hall⟩, ?_⟩
    · rintro (h | h) <;> cases h
    · rwa [List.append_assoc] at hlast

/-- How an exchange that began at `l` was conducted: the calls that send and those that receive,
what it ended with, and the events handed on after it. -/
structure Conducted (l : Link (Observed τ)) (frame : Bytes) (sends receives : List Call)
    (r : Except LinkError Applet.Reply) (emitted : List Event) : Prop where
  /-- Each message that is offered has room. -/
  offers : ∀ c ∈ sends, ∃ m answer, c = .send m answer ∧ m ≠ [] ∧ m.length ≤ l.maxMessage
  awaits : ∀ c ∈ receives, ∃ answer, c = .receive l.maxMessage answer
  /-- What is taken is the frame, once and in order, or a part of it if a call fails. -/
  part : accepted sends <+: frame
  whole : (∀ c ∈ sends, ¬ c.Failed) → accepted sends = frame
  /-- A call that fails ends the exchange. -/
  failed : (∃ c ∈ sends ++ receives, c.Failed) → r = .error .transport
  /-- If the channel obliges, the stream decides. -/
  told : ∀ stream I, Obliging frame stream l.maxMessage I → I [] l.transport.channel →
    (∀ c ∈ sends, ¬ c.Failed) ∧ r = (told stream).2 ∧ emitted = l.emitted ++ (told stream).1

/-- Starting over neither sends nor receives, and hands nothing on. -/
theorem calls_reset (l : Link (Observed τ)) : ∃ calls,
    (reset.run l).2.transport.calls = l.transport.calls ++ calls ∧
    (∀ c ∈ calls, ¬ Observed.IsTraffic c) ∧ (reset.run l).2.emitted = l.emitted := by
  obtain ⟨answer, hattempted⟩ := attempted_openChannel (closeChannel.run l).2
  refine ⟨[.disconnect, .connect l.client answer], ?_, ?_, ?_⟩
  · exact hattempted.calls.trans (List.append_assoc l.transport.calls [_] [_])
  · exact List.forall_mem_cons.mpr ⟨id, List.forall_mem_singleton.mpr id⟩
  · show (openChannel.run (closeChannel.run l).2).2.emitted = l.emitted
    simp only [openChannel, StateT.run]
    split
    · rfl
    · rfl

theorem conducted_roundTrip {frame : Bytes} (hd : l.decoder = {}) (hroom : 0 < l.maxMessage) :
    Ends (roundTrip frame) l fun r l' => ∃ sends receives,
      l'.transport.calls = l.transport.calls ++ sends ++ receives ∧
      Conducted l frame sends receives r l'.emitted := by
  rw [roundTrip, ends_bind]
  refine (transmits_sendFrame hroom frame).mono fun r l' hsent => ?_
  obtain ⟨sends, t, rfl, hsends, hsent⟩ := hsent
  have hoffers := hsends.offers
  cases hsent with
  | broken hfailed hpart =>
    refine ⟨sends, [], (List.append_nil _).symm, hoffers, nofun, hpart, fun hall => ?_,
      fun _ => rfl, fun stream I hI hstart => ?_⟩
    · obtain ⟨c, hc, hfail⟩ := hfailed
      exact absurd hfail (hall c hc)
    · obtain ⟨c, hc, hfail⟩ := hfailed
      exact absurd hfail ((hI.sends hsends [] hstart).1 c hc)
  | whole hall hwhole =>
    rw [andThen_ok, ends_bind, ends_get, andThen_ok]
    have hv : l.decoder.Valid := by
      rw [hd]
      exact Decoder.valid_new []
    let sent : Link (Observed τ) := { l with transport := ⟨t, l.transport.calls ++ sends⟩ }
    have htold : Ends (awaitReply (Transport.backlog t + 1)) sent fun r l' =>
        ∀ stream I, Obliging frame stream l.maxMessage I → I [] l.transport.channel →
          r = (told stream).2 ∧ l'.emitted = l.emitted ++ (told stream).1 := by
      intro stream I hI hstart
      obtain ⟨-, hlast⟩ := hI.sends hsends [] hstart
      rw [List.nil_append, hwhole] at hlast
      obtain ⟨pieces, hhands, rfl⟩ := hI.hands t hlast
      have hbound := hhands.length_le (hI.bounded t hlast)
      have hend := ends_awaitReply_told (hhands.observed sent.transport rfl) _ sent rfl rfl hv
        (Nat.lt_succ_of_le hbound)
      have hfeed : sent.decoder.feed pieces.flatten = ⟨none, pieces.flatten⟩ := by
        show l.decoder.feed _ = _
        rw [hd]
        rfl
      rw [hfeed] at hend
      exact hend _ (Decoder.drains_drain (Decoder.valid_new _))
    have hawaits := awaits_awaitReply (Transport.backlog t + 1) sent hv
    refine (hawaits.and htold).mono fun r l' hend => ?_
    obtain ⟨⟨receives, hcalls, hreceives, hfailed⟩, htold⟩ := hend
    refine ⟨sends, receives, hcalls, hoffers, hreceives, ?_, fun _ => hwhole, ?_, ?_⟩
    · exact hwhole ▸ List.prefix_rfl
    · rintro ⟨c, hc, hfail⟩
      rcases List.mem_append.mp hc with hc | hc
      · exact absurd hfail (hall c hc)
      · exact hfailed ⟨c, hc, hfail⟩
    · exact fun stream I hI hstart => ⟨hall, htold stream I hI hstart⟩

/-- However the channel cuts messages: an exchange offers messages of which each has room, and if
all calls go through, the bytes that were taken are the frame of the request. A call that fails ends
the exchange with a transport failure. Over a channel that obliges no call that sends fails, and the
exchange ends as the stream tells that is handed over, after handing on the events that this
tells. -/
theorem exchange_ignores_cuts {q : Applet.Request} {frame : Bytes} (hc : l.connected = true)
    (hd : l.decoder = {}) (hroom : 0 < l.maxMessage)
    (hq : Frame.encode (Packed.pack q) = some frame) :
    let after := (exchange q).run l
    ∃ sends receives others,
      after.2.transport.calls = l.transport.calls ++ sends ++ receives ++ others ∧
      (∀ c ∈ others, ¬ Observed.IsTraffic c) ∧
      Conducted l frame sends receives after.1 after.2.emitted := by
  suffices hrun : Ends (exchange q) l fun r l' => ∃ sends receives others,
      l'.transport.calls = l.transport.calls ++ sends ++ receives ++ others ∧
      (∀ c ∈ others, ¬ Observed.IsTraffic c) ∧
      Conducted l frame sends receives r l'.emitted from hrun
  simp only [exchange, ends_bind, ends_get, andThen_ok, hc, Bool.not_true, Bool.false_eq_true,
    if_false, hq]
  refine (ends_orReset _).mpr ((conducted_roundTrip hd hroom).mono fun r l' hend => ?_)
  obtain ⟨sends, receives, hcalls, hconducted⟩ := hend
  cases r with
  | ok reply =>
    refine ⟨sends, receives, [], ?_, List.forall_mem_nil _, hconducted⟩
    rw [hcalls, List.append_nil]
  | error e =>
    obtain ⟨others, hothers, hquiet, hemitted⟩ := calls_reset l'
    refine ⟨sends, receives, others, by rw [hothers, hcalls], hquiet, ?_⟩
    rw [hemitted]
    exact hconducted

end

/-! ## Channels that oblige -/

section

variable {room : Nat} {pieces : List Bytes}

/-- A scripted channel hands over its pieces, if none is empty and there is room for each. -/
theorem hands_scripted (hpieces : ∀ p ∈ pieces, p ≠ [] ∧ p.length ≤ room) :
    ∀ s : Scripted, s.deliveries = pieces.map .data → Hands room s pieces := by
  induction pieces with
  | nil =>
    intro s hs
    refine .ended fun r hr => ?_
    have hnone : (Transport.receive room s).1 = none := by
      show (Scripted.deliver room s.deliveries).1 = none
      rw [hs]
      rfl
    cases hnone.symm.trans hr
  | cons p pieces ih =>
    intro s hs
    obtain ⟨hne, hlength⟩ := hpieces p List.mem_cons_self
    have hdeliver : Scripted.deliver room s.deliveries =
        (some (.ofData p), pieces.map .data) := by
      rw [hs, List.map_cons, Scripted.deliver, List.drop_eq_nil_of_le hlength,
        List.take_of_length_le hlength]
      rfl
    have hreceived : (Transport.receive room s).1 = some (Received.ofData p) :=
      congrArg Prod.fst hdeliver
    have hrest : Hands room (Transport.receive room s).2 pieces :=
      ih (fun p' hp' => hpieces p' (List.mem_cons_of_mem p hp')) _ (congrArg Prod.snd hdeliver)
    have hpiece := Hands.piece hreceived (fun h => hne (List.length_eq_zero_iff.mp h)) hrest
    have hwhole : Bytes.resize (min p.length room) p = p := by
      rw [Nat.min_eq_left hlength]
      simp [Bytes.resize]
    exact hwhole ▸ hpiece

/-- A scripted channel that takes something of each message obliges, whatever the parts that it
takes and the pieces that it hands over. -/
theorem obliging_scripted (frame : Bytes) (hpieces : ∀ p ∈ pieces, p ≠ [] ∧ p.length ≤ room) :
    Obliging frame pieces.flatten room fun _ (s : Scripted) =>
      (∀ c ∈ s.sends, ∃ n, c = some (n + 1)) ∧ s.deliveries = pieces.map .data where
  takes := by
    rintro b s m ⟨hsends, hdeliveries⟩ hne -
    obtain ⟨n, hn⟩ : ∃ n, s.sends.head?.getD (some m.length) = some (n + 1) := by
      cases hs : s.sends with
      | nil => exact ⟨m.length - 1, congrArg some (by
          have := List.length_pos_iff.mpr hne
          omega)⟩
      | cons c rest => exact hsends c (hs ▸ List.mem_cons_self)
    exact ⟨n, hn, fun c hc => hsends c (List.mem_of_mem_tail hc), hdeliveries⟩
  hands := fun s ⟨_, hdeliveries⟩ => ⟨pieces, hands_scripted hpieces s hdeliveries, rfl⟩
  bounded := fun s _ => Transport.Bounded.givesAtMost room s

/-- A request that is taken in parts of one and two bytes, and an event and the reply to the request
that arrive in pieces of three bytes. -/
theorem exchange_in_pieces :
    let frameOf (inbound : Inbound) := (Frame.encode (Packed.pack inbound)).getD []
    let event : Event := ⟨"clock", [7], .applet⟩
    let pieces := Bytes.chunks 3 (frameOf (.event event) ++ frameOf (.reply .done))
    let l : Link (Observed Scripted) :=
      { transport := ⟨{ sends := [some 1, some 2], deliveries := pieces.map .data }, []⟩
        connected := true
        maxMessage := 4 }
    l.connected = true ∧ l.decoder = {} ∧ 0 < l.maxMessage ∧
    (Frame.encode (Packed.pack (Applet.Request.closeSession "clock"))).isSome ∧
    ((exchange (.closeSession "clock")).run l).1 = .ok .done ∧
    ((exchange (.closeSession "clock")).run l).2.emitted = [event] := by
  intro frameOf event pieces l
  have hsome : (Frame.encode (Packed.pack (Applet.Request.closeSession "clock"))).isSome := by
    decide +kernel
  obtain ⟨frame, hframe⟩ := Option.isSome_iff_exists.mp hsome
  have hroom : 0 < l.maxMessage := by decide
  have hpieces : ∀ p ∈ pieces, p ≠ [] ∧ p.length ≤ l.maxMessage := by
    decide +kernel
  have htold : (told pieces.flatten).1 = [event] ∧
      (told pieces.flatten).2.toOption = some .done := by
    decide +kernel
  obtain ⟨sends, receives, others, -, -, hconducted⟩ :=
    exchange_ignores_cuts (q := .closeSession "clock") (l := l) rfl rfl hroom hframe
  obtain ⟨-, hr, hemitted⟩ :=
    hconducted.told _ _ (obliging_scripted frame hpieces) ⟨by
      rintro c (_ | ⟨_, _ | ⟨_, ⟨⟩⟩⟩)
      · exact ⟨0, rfl⟩
      · exact ⟨1, rfl⟩, rfl⟩
  refine ⟨rfl, rfl, hroom, hsome, ?_, ?_⟩
  · rw [hr]
    exact eq_ok_of_toOption htold.2
  · rw [hemitted, htold.1]
    rfl

end

end Link

end AppletGateway
