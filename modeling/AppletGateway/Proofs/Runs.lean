import AppletGateway.Proofs.Conversations
import AppletGateway.Proofs.Exchange
import AppletGateway.Proofs.Handles

/-!
# Runs of a gateway in front of the simulated co-processor

A run is any list of moves: an operation, the handing on of events, or something that the operator
does in between. What the operator does within an operation is on the agenda of the channel, so a
run with an agenda chosen freely covers faults at any request.

Results:
* `Service.Healthy.run`: after every run the link is sane and the registry sound.
-/

namespace AppletGateway

/-! ## Sane links -/

/-- A device that holds no session has no handle out of order. -/
theorem Device.Closed.numbered {d d' : Device} (hc : d'.Closed) (h : d.Numbered)
    (hn : d'.nextHandle = d.nextHandle) (hr : d'.received = d.received) : d'.Numbered := by
  refine ⟨?_, fun a p ha => ?_⟩
  · rw [hn, starts, hr]
    exact h.counter
  · rw [hc.provisioning] at ha
    cases ha

namespace Link

variable {l l' : Link Attended}

/-- A quiet link to a device whose handles are numbered in order, unless it has run out of them. -/
structure Sane (l : Link Attended) : Prop where
  quiet : Quiet l
  numbered : l.transport.device.Unwrapped → l.transport.device.Numbered

theorem StartedOver.sane_of {d : Device} {epoch : Nat} (h : StartedOver epoch d l')
    (hd : d.Unwrapped → d.Numbered) : Sane l' :=
  ⟨h.quiet, fun hu => h.closed.numbered (hd (hu.of_received h.received)) h.nextHandle h.received⟩

theorem StartedOver.sane {epoch : Nat} (h : StartedOver epoch l.transport.device l')
    (hs : Sane l) : Sane l' := h.sane_of hs.numbered

/-- However an exchange ends, it leaves the link sane. -/
theorem Exchanged.sane {q : Applet.Request} {r : Except LinkError Applet.Reply}
    (hx : Exchanged l q r l') (h : Sane l) : Sane l' := by
  have hbefore {b : Attended} (hb : Attended.Disturbs l.transport b) (hu : b.device.Unwrapped) :
      b.device.Numbered :=
    (h.numbered (hu.of_sameSessions hb.sameSessions)).of_sameSessions hb.sameSessions
  cases hx with
  | down _ => exact h
  | unsent _ _ => exact h
  | @served b _ _ hb quiet _ _ _ device =>
    have hsame : (b.device.handle q).2.SameSessions l'.transport.device := by
      rw [device]
      exact ⟨rfl, rfl, rfl, rfl, rfl⟩
    refine ⟨quiet, fun hu => ?_⟩
    have hu := hu.of_sameSessions hsame
    exact ((hbefore hb hu.of_handle).handle hu).of_sameSessions hsame
  | lost _ _ hb _ hd anew =>
    refine anew.sane_of fun hu => ?_
    rcases hd with hd | hd
    · exact (hbefore hb (hu.of_sameSessions hd)).of_sameSessions hd
    · have hu := hu.of_sameSessions hd
      exact ((hbefore hb hu.of_handle).handle hu).of_sameSessions hd

theorem Sane.exchange (h : Sane l) (q : Applet.Request) : Sane ((exchange q).run l).2 :=
  (ends_exchange h.quiet q).mono fun _ _ hx => hx.sane h

end Link

namespace Service

/-- What can happen to a gateway. -/
inductive Move
  | perform (o : Operation)
  | poll
  | control (c : Control)

/-- The service after a move. -/
def move : Move → Service Attended → Service Attended
  | .perform o, s => ((perform o).run s).2
  | .poll, s => (pollEvents.run s).2
  | .control c, s =>
    { s with link := { s.link with
        transport := s.link.transport.withDevice (c.apply s.link.transport.device) } }

/-- The service after the moves of a run, the first of them first. -/
def run (ms : List Move) (s : Service Attended) : Service Attended :=
  ms.foldl (fun s m => move m s) s

/-- A gateway that has done nothing yet, in front of a device with some apps installed. -/
def start (apps : List String) (client : Guid) (options : ServiceOptions)
    (agenda : List (List Control)) : Service Attended :=
  { link :=
      { transport := { channel := { device := .ofApps apps }, agenda := agenda }, client := client }
    options := options }

/-- An invariant of the moves is one of the runs. -/
theorem run_induction {I : Service Attended → Prop} {s : Service Attended} (h : I s)
    (hstep : ∀ m s, I s → I (move m s)) (ms : List Move) : I (run ms s) := by
  induction ms generalizing s with
  | nil => exact h
  | cons m ms ih => exact ih (hstep m s h)

/-- What holds of a gateway between two moves. -/
structure Healthy (s : Service Attended) : Prop where
  sane : s.link.Sane
  sound : s.registry.Sound

theorem healthy_start (apps : List String) (client : Guid) (options : ServiceOptions)
    (agenda : List (List Control)) : Healthy (start apps client options agenda) :=
  ⟨⟨⟨rfl, rfl, rfl, rfl, nofun, fun _ => ⟨rfl, rfl, rfl⟩⟩, fun _ => ⟨Nat.zero_le _, nofun⟩⟩,
    Registry.sound_new⟩

/-! ## Turns -/

theorem Evolves.sane {app : String} {t t' : Turn Attended} (h : Evolves app t t')
    (hs : t.link.Sane) : t'.link.Sane := by
  induction h with
  | refl => exact hs
  | exchange _ q _ ih => exact ih.exchange q
  | edit _ _ ih => exact ih
  | @issue t' _ owner ih =>
    have hlink : ((issueToken owner).run t').2.link = t'.link := rfl
    rw [hlink]
    exact ih

theorem Turned.sane {α : Type} {o : Operation} {app : String} {t t' : Turn Attended}
    {r : Except Status α} (h : Turned o app t r t') (hs : t.link.Sane) : t'.link.Sane := by
  cases r with
  | error e => exact Evolves.sane h hs
  | ok a =>
    obtain ⟨t₁, row, h₁, _, h₂⟩ := h
    exact h₂.sane (h₁.sane hs)

/-! ## Tearing down -/

/-- Ending what rows stand for is to unsubscribe and to close sessions. -/
theorem converses_closeDrained {τ : Type} [Transport τ] (rows : List Row) (l : Link τ) :
    ∃ talk, Link.Converses l talk ((rows.forM closeDrained).run l).2 ∧
      ∀ e ∈ talk, ∃ app, e.1 = .unsubscribe app ∨ e.1 = .closeSession app := by
  induction rows generalizing l with
  | nil => exact ⟨[], .nil l, nofun⟩
  | cons row rows ih =>
    obtain ⟨talk, hc, hends⟩ : ∃ talk, Link.Converses l talk ((closeDrained row).run l).2 ∧
        ∀ e ∈ talk, ∃ app, e.1 = .unsubscribe app ∨ e.1 = .closeSession app := by
      unfold closeDrained
      cases row.callback.isSome <;> cases row.loaded
      · exact ⟨[], .nil l, nofun⟩
      · exact ⟨_, .single l _, List.forall_mem_singleton.mpr ⟨_, .inr rfl⟩⟩
      · exact ⟨_, .single l _, List.forall_mem_singleton.mpr ⟨_, .inl rfl⟩⟩
      · exact ⟨_, (Link.Converses.single l _).append (.single _ _),
          List.forall_mem_cons.mpr ⟨⟨_, .inl rfl⟩, List.forall_mem_singleton.mpr ⟨_, .inr rfl⟩⟩⟩
    obtain ⟨talk', hc', hends'⟩ := ih ((closeDrained row).run l).2
    exact ⟨_, hc.append hc', List.forall_mem_append.mpr ⟨hends, hends'⟩⟩

theorem sane_closeAllDrained {l : Link Attended} (hs : l.Sane) (rows : List Row) :
    ((rows.forM closeDrained).run l).2.Sane := by
  obtain ⟨talk, hc, _⟩ := converses_closeDrained rows l
  exact hc.keeps (fun l e _ hl => hl.exchange e.1) hs

theorem run_deinit {τ : Type} [Transport τ] (s : Service τ) :
    deinit.run s = if s.link.connected then
      (.ok (), { s with
        registry := (Registry.drain.run s.registry).2
        link := (Link.disconnect.run
          (((Registry.drain.run s.registry).1.forM closeDrained).run s.link).2).2 })
      else (.ok (), s) := rfl

/-- How tearing down ends: without a connection nothing is done; with one, the rows and the sessions
are gone. -/
theorem ends_deinit {s : Service Attended} (hs : s.link.Sane) :
    Ends deinit s fun r s' => r = .ok () ∧
      ((s.link.connected = false ∧ s' = s) ∨
        (s.link.connected = true ∧ s'.registry = (Registry.drain.run s.registry).2 ∧
          s'.link.Sane ∧ s'.link.connected = false)) := by
  unfold Ends
  rw [run_deinit]
  cases hc : s.link.connected with
  | false => exact ⟨rfl, .inl ⟨rfl, rfl⟩⟩
  | true =>
    have hrows := sane_closeAllDrained hs (Registry.drain.run s.registry).1
    obtain ⟨hquiet, hdown, _, hn, hr⟩ := Link.quiet_disconnect hrows.quiet
    refine ⟨rfl, .inr ⟨rfl, rfl, ⟨hquiet, fun hu => ?_⟩, hdown⟩⟩
    exact (hquiet.closed hdown).numbered (hrows.numbered (hu.of_received hr)) hn hr

/-! ## Every move -/

theorem ends_init {τ : Type} [Transport τ] {s : Service τ}
    {Q : Except Status Unit → Service τ → Prop} :
    Ends init s Q = Ends Link.connect s.link fun r l =>
      Q (r.mapError LinkError.status) { s with link := l } := rfl

theorem ends_pollEvents {s : Service Attended} {Q : Except Status Nat → Service Attended → Prop} :
    Ends pollEvents s Q = Ends Link.pollEvents s.link fun r l =>
      Q (r.mapError LinkError.status) { s with link := l } := rfl

theorem Healthy.perform {s : Service Attended} (h : Healthy s) (o : Operation) :
    Ends (Service.perform o) s fun _ s' => Healthy s' := by
  refine Ends.mono (Ends.and (Q := fun _ s' => s'.link.Sane) ?_ (sound_perform h.sound o))
    fun _ _ h => ⟨h.1, h.2⟩
  by_cases hi : o = .init
  · subst hi
    refine ends_init.mpr <| (Link.ends_connect h.sane.quiet).mono fun r l hl => ?_
    rcases hl with ⟨_, _, rfl⟩ | ⟨_, hover, _⟩
    · exact h.sane
    · exact hover.sane h.sane
  by_cases hd : o = .deinit
  · subst hd
    refine (ends_deinit h.sane).mono fun r s' h' => ?_
    rcases h' with ⟨_, ⟨_, rfl⟩ | ⟨_, _, hsane, _⟩⟩
    · exact h.sane
    · exact hsane
  refine (ends_perform h.sound hi hd).mono fun r s' hp => ?_
  cases hp with
  | refused e => exact h.sane
  | idle a _ => exact h.sane
  | turn _ ht => exact ht.sane h.sane

theorem Healthy.poll {s : Service Attended} (h : Healthy s) :
    Ends pollEvents s fun _ s' => Healthy s' := by
  refine ends_pollEvents.mpr <| (Link.ends_pollEvents h.sane.quiet).mono fun r l hp => ?_
  rcases hp with ⟨_, _, hquiet, _, _, hsame⟩ | ⟨_, _, hover⟩
  · refine ⟨⟨hquiet, fun hu => ?_⟩, h.sound⟩
    exact (h.sane.numbered (hu.of_sameSessions hsame)).of_sameSessions hsame
  · exact ⟨hover.sane h.sane, h.sound⟩

theorem Healthy.control {s : Service Attended} (h : Healthy s) (c : Control) :
    Healthy (move (.control c) s) := by
  have hquiet := h.sane.quiet
  have hsame := Device.SameSessions.apply c s.link.transport.device
  refine ⟨⟨⟨hquiet.connected, hquiet.inbox, hquiet.outbox, hquiet.decoder, hquiet.room,
    fun hc => (hquiet.closed hc).of_sameSessions hsame⟩, fun hu => ?_⟩, h.sound⟩
  exact (h.sane.numbered (hu.of_sameSessions hsame)).of_sameSessions hsame

theorem Healthy.move {s : Service Attended} (h : Healthy s) (m : Move) : Healthy (move m s) := by
  cases m with
  | perform o => exact h.perform o
  | poll => exact h.poll
  | control c => exact h.control c

/-- After every run the link is sane and the registry sound. -/
theorem Healthy.run {s : Service Attended} (h : Healthy s) (ms : List Move) : Healthy (run ms s) :=
  run_induction h (fun m _ hs => hs.move m) ms

end Service

end AppletGateway
