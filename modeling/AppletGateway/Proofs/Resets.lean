import AppletGateway.Link
import AppletGateway.Proofs.Steps
import AppletGateway.Transport.Scripted

/-!
# When the link starts over

A failure leaves no trace of the connection it happened on. To say so of any channel, whatever it
answers, an `Observed` channel keeps the calls made to it. Sending, waiting for a reply and handing
events on only send and receive, on the connection that there is; what breaks off in the middle of
them ends with one disconnection and one attempt to connect, nothing is left in the decoder, and the
epoch counts the attempts that succeeded.

Results:
* `Link.concluded_exchange`, `Link.concluded_pollEvents`: what an operation has done to the
  connection, by what it ended with.
* `Link.epoch_afterSteps`: the epoch of a link is the number of its connections.
* `Link.reset_discipline`: both, for every channel and every state of the link.
-/

namespace AppletGateway

open Scripted (Call)

/-! ## Channels under observation -/

/-- A channel with the calls made to it, oldest first. -/
structure Observed (τ : Type) where
  channel : τ
  calls : List Call := []

namespace Observed

variable {τ : Type}

/-- The call is part of a connection: it neither makes nor ends one. -/
def IsTraffic : Call → Prop
  | .send _ _ | .receive _ _ => True
  | .connect _ _ | .disconnect => False

/-- The call has made a connection. -/
def opens : Call → Bool
  | .connect _ answer => answer.isSome
  | .send _ _ | .receive _ _ | .disconnect => false

/-- The number of connections made. -/
def connections (o : Observed τ) : Nat := o.calls.countP opens

instance [Transport τ] : Transport (Observed τ) where
  connect client o :=
    let (answer, t) := Transport.connect client o.channel
    (answer, ⟨t, o.calls ++ [.connect client answer]⟩)
  send message o :=
    let (taken, t) := Transport.send message o.channel
    (taken, ⟨t, o.calls ++ [.send message taken]⟩)
  receive room o :=
    let (received, t) := Transport.receive room o.channel
    (received, ⟨t, o.calls ++ [.receive room (received.map Received.count)]⟩)
  available o := Transport.available o.channel
  disconnect o := ⟨Transport.disconnect o.channel, o.calls ++ [.disconnect]⟩
  backlog o := Transport.backlog o.channel

theorem countP_traffic {calls : List Call} (h : ∀ c ∈ calls, IsTraffic c) :
    calls.countP opens = 0 := by
  refine List.countP_eq_zero.mpr fun c hc => ?_
  cases c with
  | send _ _ | receive _ _ => exact Bool.false_ne_true
  | connect _ _ | disconnect => exact (h _ hc).elim

end Observed

namespace Link

open Observed (IsTraffic)

/-- A step that starts over if it fails. -/
theorem ends_orReset {τ α : Type} [Transport τ] {l : Link τ} (x : Run τ α)
    {Q : Except LinkError α → Link τ → Prop} :
    Ends (orReset x) l Q ↔ Ends x l fun r l' =>
      match r with
      | .ok a => Q (.ok a) l'
      | .error e => Q (.error e) (reset.run l').2 := by
  unfold orReset
  rw [ends_tryCatch]
  unfold Ends
  rcases x.run l with ⟨_ | a, l'⟩ <;> rfl

/-- To disconnect is to close the channel, if there is a connection. -/
theorem run_disconnect {τ : Type} [Transport τ] (l : Link τ) :
    (disconnect.run l).2 = if l.connected then (closeChannel.run l).2 else l := by
  show ((if l.connected then closeChannel else pure () : StateM (Link τ) Unit).run l).2 = _
  split <;> rfl

/-! ## Runs -/

/-- What may happen to a link; beside its operations something of kind `κ` from outside. -/
inductive Step (κ : Type)
  | connect
  | disconnect
  | exchange (q : Applet.Request)
  | pollEvents
  | outside (k : κ)

section Runs

variable {κ τ : Type} [Transport τ] (disturb : κ → τ → τ)

/-- The link after a step, whatever that has ended with. -/
def Step.apply : Step κ → Link τ → Link τ
  | connect, l => ((Link.connect : Run τ Unit).run l).2
  | disconnect, l => (Link.disconnect.run l).2
  | exchange q, l => ((Link.exchange q).run l).2
  | pollEvents, l => (Link.pollEvents.run l).2
  | outside k, l => { l with transport := disturb k l.transport }

/-- The link after some steps, one after the other. -/
def afterSteps (steps : List (Step κ)) (l : Link τ) : Link τ :=
  steps.foldl (fun l s => s.apply disturb l) l

/-- An invariant of the steps is one of the runs. -/
theorem afterSteps_induction {I : Link τ → Prop} (hstep : ∀ s l, I l → I (Step.apply disturb s l))
    (steps : List (Step κ)) {l : Link τ} (h : I l) : I (afterSteps disturb steps l) := by
  induction steps generalizing l with
  | nil => exact h
  | cons s steps ih => exact ih (hstep s l h)

end Runs

variable {τ α β : Type} {l l' l'' : Link (Observed τ)}

/-! ## What is done to a connection -/

/-- From `l` to `l'` the channel was only sent to and received from. -/
structure OnConnection (l l' : Link (Observed τ)) : Prop where
  client : l'.client = l.client
  connected : l'.connected = l.connected
  epoch : l'.epoch = l.epoch
  traffic : ∃ calls, l'.transport.calls = l.transport.calls ++ calls ∧ ∀ c ∈ calls, IsTraffic c

namespace OnConnection

/-- Nothing that is done to the decoder or to the events concerns the channel. -/
theorem of_transport (ht : l'.transport = l.transport) (hcl : l'.client = l.client)
    (hc : l'.connected = l.connected) (he : l'.epoch = l.epoch) : OnConnection l l' :=
  ⟨hcl, hc, he, [], by rw [ht, List.append_nil], nofun⟩

/-- One message was sent or received. -/
theorem of_call {c : Call} (ht : l'.transport.calls = l.transport.calls ++ [c])
    (hcl : l'.client = l.client) (hc : l'.connected = l.connected) (he : l'.epoch = l.epoch)
    (h : IsTraffic c) : OnConnection l l' :=
  ⟨hcl, hc, he, [c], ht, by rintro _ (_ | ⟨_, ⟨⟩⟩); exact h⟩

theorem refl (l : Link (Observed τ)) : OnConnection l l := of_transport rfl rfl rfl rfl

theorem trans (h : OnConnection l l') (h' : OnConnection l' l'') : OnConnection l l'' := by
  obtain ⟨calls, hcalls, htraffic⟩ := h.traffic
  obtain ⟨calls', hcalls', htraffic'⟩ := h'.traffic
  refine ⟨h'.client.trans h.client, h'.connected.trans h.connected, h'.epoch.trans h.epoch,
    calls ++ calls', ?_, ?_⟩
  · rw [hcalls', hcalls, List.append_assoc]
  · intro c hc
    exact (List.mem_append.mp hc).elim (htraffic c) (htraffic' c)

theorem connections (h : OnConnection l l') :
    l'.transport.connections = l.transport.connections := by
  obtain ⟨calls, hcalls, htraffic⟩ := h.traffic
  unfold Observed.connections
  rw [hcalls, List.countP_append, Observed.countP_traffic htraffic, Nat.add_zero]

end OnConnection

/-- From `l` to `l'` the link has tried to connect, with this answer. -/
structure Attempted (l : Link (Observed τ)) (answer : Option Nat) (l' : Link (Observed τ)) :
    Prop where
  client : l'.client = l.client
  calls : l'.transport.calls = l.transport.calls ++ [.connect l.client answer]
  connected : l'.connected = (l.connected || answer.isSome)
  epoch : l'.epoch = if answer.isSome then l.epoch + 1 else l.epoch
  decoder : l.decoder = {} → l'.decoder = {}

/-- The epoch moves on with the connections made. -/
theorem Attempted.connections {answer : Option Nat} (h : Attempted l answer l') :
    l'.epoch + l.transport.connections = l.epoch + l'.transport.connections := by
  unfold Observed.connections
  rw [h.epoch, h.calls, List.countP_append]
  cases answer with
  | none => rfl
  | some n =>
    show l.epoch + 1 + _ = l.epoch + (_ + 1)
    omega

/-- From `l` to `l'` the connection was used, given up, and another one was tried for: after what
was sent and received there was one disconnection and one attempt to connect, whose answer decides
whether the link is connected and on the epoch. -/
structure Renewed (l l' : Link (Observed τ)) : Prop where
  client : l'.client = l.client
  attempt : ∃ traffic answer,
    l'.transport.calls =
      l.transport.calls ++ traffic ++ [.disconnect, .connect l.client answer] ∧
    (∀ c ∈ traffic, IsTraffic c) ∧ l'.connected = answer.isSome ∧
    l'.epoch = if answer.isSome then l.epoch + 1 else l.epoch
  decoder : l'.decoder = {}

theorem Renewed.connections (h : Renewed l l') :
    l'.epoch + l.transport.connections = l.epoch + l'.transport.connections := by
  obtain ⟨traffic, answer, hcalls, htraffic, _, hepoch⟩ := h.attempt
  unfold Observed.connections
  rw [hepoch, hcalls, List.countP_append, List.countP_append, Observed.countP_traffic htraffic]
  cases answer with
  | none => rfl
  | some n =>
    show l.epoch + 1 + _ = l.epoch + (_ + 0 + 1)
    omega

/-- What an operation that began at `l` has done to the connection, by what it ended with. -/
def Concluded (l : Link (Observed τ)) : Except LinkError α → Link (Observed τ) → Prop
  | .ok _, l' => OnConnection l l'
  | .error .notConnected, l' | .error .encode, l' => l' = l
  | .error .transport, l' | .error .malformed, l' => Renewed l l'

theorem Concluded.connections {r : Except LinkError α} (h : Concluded l r l') :
    l'.epoch + l.transport.connections = l.epoch + l'.transport.connections := by
  match r, h with
  | .ok _, h => rw [OnConnection.epoch h, OnConnection.connections h]
  | .error .notConnected, h | .error .encode, h => rw [show l' = l from h]
  | .error .transport, h | .error .malformed, h => exact Renewed.connections h

/-! ## Steps under way -/

/-- The errors of a step that is under way: the channel failed, or what it gave is no message. -/
def Breaks (e : LinkError) : Prop := e = .transport ∨ e = .malformed

/-- However the step ends, it has only sent and received, and if it fails it has broken off. -/
def Stays (x : Run (Observed τ) α) : Prop :=
  ∀ l, Ends x l fun r l' => OnConnection l l' ∧ ∀ e, r = .error e → Breaks e

theorem stays_pure (a : α) : Stays (pure a : Run (Observed τ) α) := fun l => ⟨.refl l, nofun⟩

theorem stays_throw {e : LinkError} (he : Breaks e) : Stays (throw e : Run (Observed τ) α) :=
  fun l => ⟨.refl l, by rintro _ ⟨⟩; exact he⟩

/-- A step begun later on the connection. -/
theorem Stays.ends {x : Run (Observed τ) α} (hx : Stays x) (h : OnConnection l l') :
    Ends x l' fun r l'' => OnConnection l l'' ∧ ∀ e, r = .error e → Breaks e :=
  (hx l').mono fun _ _ h' => ⟨h.trans h'.1, h'.2⟩

theorem Stays.bind {x : Run (Observed τ) α} {f : α → Run (Observed τ) β} (hx : Stays x)
    (hf : ∀ a, Stays (f a)) : Stays (x >>= f) := by
  intro l
  rw [ends_bind]
  refine (hx l).mono fun r l' h => ?_
  cases r with
  | error e => exact ⟨h.1, by rintro _ ⟨⟩; exact h.2 e rfl⟩
  | ok a => exact (hf a).ends h.1

/-- A step that starts with a look at the link may be taken for every state it sees. -/
theorem stays_get {f : Link (Observed τ) → Run (Observed τ) α} (hf : ∀ l, Stays (f l)) :
    Stays (get >>= f) := Stays.bind (fun l => ⟨.refl l, nofun⟩) hf

theorem stays_forM {f : Bytes → Run (Observed τ) Unit} (hf : ∀ m, Stays (f m))
    (ms : List Bytes) : Stays (ms.forM f) := by
  induction ms with
  | nil => exact stays_pure ()
  | cons m ms ih => exact (hf m).bind fun _ => ih

theorem stays_ite {c : Prop} [Decidable c] {x y : Run (Observed τ) α} (hx : Stays x)
    (hy : Stays y) : Stays (if c then x else y) := by
  split
  · exact hx
  · exact hy

/-! ## Reading what is buffered -/

theorem stays_nextInbound : Stays (nextInbound : Run (Observed τ) (Option Applet.Inbound)) := by
  intro l
  simp only [nextInbound, ends_bind, ends_get, andThen_ok, ends_set]
  refine Stays.ends ?_ (.of_transport rfl rfl rfl rfl)
  split
  · exact stays_throw (.inr rfl)
  · exact stays_pure _
  · split
    · exact stays_pure _
    · exact stays_throw (.inr rfl)

theorem stays_emit (e : Applet.Event) : Stays (emit e : Run (Observed τ) Unit) :=
  fun _ => ⟨.of_transport rfl rfl rfl rfl, nofun⟩

theorem stays_bufferedReply (limit : Nat) :
    Stays (bufferedReply limit : Run (Observed τ) (Option Applet.Reply)) := by
  induction limit with
  | zero => exact stays_pure _
  | succ limit ih =>
    refine stays_nextInbound.bind fun inbound => ?_
    split
    · exact stays_pure _
    · exact stays_pure _
    · exact (stays_emit _).bind fun _ => ih

theorem stays_routeBuffered (limit count : Nat) :
    Stays (routeBuffered limit count : Run (Observed τ) Nat) := by
  induction limit generalizing count with
  | zero => exact stays_pure _
  | succ limit ih =>
    refine stays_nextInbound.bind fun inbound => ?_
    split
    · exact stays_pure _
    · exact ih _
    · exact (stays_emit _).bind fun _ => ih _

/-! ## Sending and receiving -/

variable [Transport τ]

theorem stays_sendMessage (limit : Nat) (message : Bytes) :
    Stays (sendMessage limit message : Run (Observed τ) Unit) := by
  induction limit generalizing message with
  | zero =>
    cases message with
    | nil => exact stays_pure ()
    | cons _ _ => exact stays_throw (.inl rfl)
  | succ limit ih =>
    cases message with
    | nil => exact stays_pure ()
    | cons b message =>
      intro l
      simp only [sendMessage, ends_bind, ends_get, andThen_ok, ends_set]
      refine Stays.ends ?_ (.of_call rfl rfl rfl rfl (c := .send _ _) trivial)
      split
      · exact stays_throw (.inl rfl)
      · exact stays_throw (.inl rfl)
      · exact ih _

theorem stays_sendFrame (frame : Bytes) : Stays (sendFrame frame : Run (Observed τ) Unit) :=
  stays_get fun _ => stays_forM (fun m => stays_sendMessage m.length m) _

theorem stays_receiveMessage : Stays (receiveMessage : Run (Observed τ) Unit) := by
  intro l
  simp only [receiveMessage, ends_bind, ends_get, andThen_ok, ends_set]
  refine Stays.ends ?_ (.of_call rfl rfl rfl rfl (c := .receive _ _) trivial)
  split
  · exact stays_throw (.inl rfl)
  · exact stays_ite (stays_throw (.inl rfl)) fun l => ⟨.of_transport rfl rfl rfl rfl, nofun⟩

theorem stays_awaitReply (limit : Nat) :
    Stays (awaitReply limit : Run (Observed τ) Applet.Reply) := by
  induction limit with
  | zero => exact stays_throw (.inl rfl)
  | succ limit ih =>
    refine stays_get fun l => (stays_bufferedReply _).bind fun reply => ?_
    split
    · exact stays_pure _
    · exact stays_receiveMessage.bind fun _ => ih

theorem stays_roundTrip (frame : Bytes) :
    Stays (roundTrip frame : Run (Observed τ) Applet.Reply) :=
  (stays_sendFrame frame).bind fun _ => stays_get fun _ => stays_awaitReply _

theorem stays_drainEvents (limit count : Nat) :
    Stays (drainEvents limit count : Run (Observed τ) Nat) := by
  induction limit generalizing count with
  | zero => exact stays_throw (.inl rfl)
  | succ limit ih =>
    refine stays_get fun l => (stays_routeBuffered _ _).bind fun count => stays_get fun l' => ?_
    exact stays_ite (stays_receiveMessage.bind fun _ => ih _) (stays_pure _)

/-! ## Connecting -/

theorem attempted_openChannel (l : Link (Observed τ)) :
    ∃ answer, Attempted l answer (openChannel.run l).2 := by
  have hconnect : Transport.connect l.client l.transport =
      ((Transport.connect l.client l.transport.channel).1,
        (⟨(Transport.connect l.client l.transport.channel).2, l.transport.calls ++
          [.connect l.client (Transport.connect l.client l.transport.channel).1]⟩ :
            Observed τ)) := rfl
  simp only [openChannel, StateT.run]
  rw [hconnect]
  cases (Transport.connect l.client l.transport.channel).1 with
  | none => exact ⟨none, rfl, rfl, (Bool.or_false _).symm, rfl, id⟩
  | some n => exact ⟨some n, rfl, rfl, (Bool.or_true _).symm, rfl, fun _ => rfl⟩

/-! ## Starting over -/

theorem renewed_reset (h : OnConnection l l') : Renewed l (reset.run l').2 := by
  obtain ⟨traffic, hcalls, htraffic⟩ := h.traffic
  have hreset : (reset.run l').2 = (openChannel.run (closeChannel.run l').2).2 := rfl
  have hclosed : (closeChannel.run l').2.transport.calls =
      l.transport.calls ++ traffic ++ [.disconnect] := by
    rw [← hcalls]
    rfl
  obtain ⟨answer, hopen⟩ := attempted_openChannel (closeChannel.run l').2
  rw [← hreset] at hopen
  have hclient : (closeChannel.run l').2.client = l.client := h.client
  have hepoch : (closeChannel.run l').2.epoch = l.epoch := h.epoch
  refine ⟨hopen.client.trans hclient, ⟨traffic, answer, ?_, htraffic, hopen.connected, ?_⟩,
    hopen.decoder rfl⟩
  · rw [hopen.calls, hclosed, hclient, List.append_assoc]
    rfl
  · rw [hopen.epoch, hepoch]

theorem concluded_orReset {x : Run (Observed τ) α} (h : Stays x) :
    Ends (orReset x) l fun r l' => Concluded l r l' ∧ ∀ e, r = .error e → Breaks e := by
  rw [ends_orReset]
  refine (h l).mono fun r l' hend => ?_
  cases r with
  | ok a => exact ⟨hend.1, nofun⟩
  | error e =>
    refine ⟨?_, hend.2⟩
    obtain rfl | rfl := hend.2 e rfl
    · exact renewed_reset hend.1
    · exact renewed_reset hend.1

theorem concluded_exchange (l : Link (Observed τ)) (q : Applet.Request) :
    Ends (exchange q) l fun r l' => Concluded l r l' ∧ (r.isOk → l.connected = true) := by
  simp only [exchange, ends_bind, ends_get, andThen_ok]
  cases hc : l.connected with
  | false => exact ⟨rfl, nofun⟩
  | true =>
    simp only [Bool.not_true, Bool.false_eq_true, if_false]
    cases Frame.encode (Packed.pack q) with
    | none => exact ⟨rfl, nofun⟩
    | some frame =>
      exact (concluded_orReset (stays_roundTrip frame)).mono fun _ _ h => ⟨h.1, fun _ => trivial⟩

theorem concluded_pollEvents (l : Link (Observed τ)) :
    Ends pollEvents l fun r l' => Concluded l r l' ∧ ∀ e, r = .error e → Breaks e := by
  simp only [pollEvents, ends_bind, ends_get, andThen_ok]
  cases hc : l.connected with
  | false => exact ⟨.refl l, nofun⟩
  | true =>
    simp only [Bool.not_true, Bool.false_eq_true, if_false, ends_bind, ends_get, andThen_ok]
    exact concluded_orReset (stays_drainEvents _ _)

/-! ## Observed runs -/

/-- The channel comes into another state without being called. -/
def becomes (t : τ) (o : Observed τ) : Observed τ := { o with channel := t }

/-- A link that has not been used, over a channel that has not been called. -/
def unused (client : Guid) (t : τ) : Link (Observed τ) := { transport := { channel := t }, client }

/-- No step lets the epoch and the number of connections part. -/
theorem connections_apply (s : Step τ) (l : Link (Observed τ)) :
    (s.apply becomes l).epoch + l.transport.connections =
      l.epoch + (s.apply becomes l).transport.connections := by
  cases s with
  | connect =>
    have h : Ends (Link.connect : Run (Observed τ) Unit) l fun _ l' =>
        l'.epoch + l.transport.connections = l.epoch + l'.transport.connections := by
      simp only [Link.connect, ends_bind, ends_get, andThen_ok]
      cases l.connected with
      | true => rfl
      | false =>
        obtain ⟨answer, h⟩ := attempted_openChannel l
        simp only [Bool.false_eq_true, if_false, ends_bind, ends_lift, andThen_ok, ends_ite]
        split <;> exact h.connections
    exact h
  | disconnect =>
    show (Link.disconnect.run l).2.epoch + _ = _ + (Link.disconnect.run l).2.transport.connections
    rw [run_disconnect]
    split
    · have hcalls : (closeChannel.run l).2.transport.calls = l.transport.calls ++ [.disconnect] :=
        rfl
      unfold Observed.connections
      rw [hcalls, List.countP_append]
      rfl
    · rfl
  | exchange q => exact (concluded_exchange l q).1.connections
  | pollEvents => exact (concluded_pollEvents l).1.connections
  | outside t => rfl

/-- The epoch of a link is the number of its connections. -/
theorem epoch_afterSteps (steps : List (Step τ)) (client : Guid) (t : τ) :
    let l := afterSteps becomes steps (unused client t)
    l.epoch = l.transport.connections := by
  refine afterSteps_induction (I := fun l => l.epoch = l.transport.connections) becomes
    (fun s l h => ?_) steps rfl
  have hs := connections_apply s l
  omega

/-- Whatever the channel answers, and in whatever state the link is: an exchange that is refused
before anything is sent changes nothing and calls nothing, one that succeeds stays on its
connection, and an exchange or a poll that breaks off has given the connection up and tried for
another one. The epoch of a link is the number of its connections. -/
theorem reset_discipline :
    (∀ (l : Link (Observed τ)) (q : Applet.Request), Ends (exchange q) l fun r l' =>
      match r with
      | .ok _ => l'.connected = true ∧ l'.epoch = l.epoch
      | .error .notConnected | .error .encode => l' = l
      | .error .transport | .error .malformed => Renewed l l') ∧
    (∀ l : Link (Observed τ), Ends pollEvents l fun r l' =>
      match r with
      | .ok _ => OnConnection l l'
      | .error .notConnected | .error .encode => False
      | .error .transport | .error .malformed => Renewed l l') ∧
    ∀ (steps : List (Step τ)) (client : Guid) (t : τ),
      let l := afterSteps becomes steps (unused client t)
      l.epoch = l.transport.connections := by
  refine ⟨fun l q => ?_, fun l => ?_, epoch_afterSteps⟩
  · refine (concluded_exchange l q).mono fun r l' ⟨h, hc⟩ => ?_
    match r, h with
    | .ok _, h => exact ⟨(OnConnection.connected h).trans (hc rfl), OnConnection.epoch h⟩
    | .error .notConnected, h | .error .encode, h => exact h
    | .error .transport, h | .error .malformed, h => exact h
  · refine (concluded_pollEvents l).mono fun r l' ⟨h, he⟩ => ?_
    match r, h with
    | .ok _, h => exact h
    | .error .notConnected, _ | .error .encode, _ => exact (he _ rfl).elim nofun nofun
    | .error .transport, h | .error .malformed, h => exact h

end Link

end AppletGateway
