import AppletGateway.Proofs.Provisioning

/-!
# Operations and the agreement on provisioning

What the single steps do to the agreement between a row and the device is in
`Proofs/Provisioning.lean`; here the steps are put together. An operation on another app leaves the
row alone and cannot drop its handle. An operation on the app itself leaves the row right or gone,
unless it strands the handle: it closes the session on the way to something else, the device drops
the handle with the session, and the row keeps it.

Results:
* `Service.Tracks.perform`: an operation that strands no handle of an app leaves its row right.
* `Service.Tracks.run`: so does a run in which no operation does.
-/

namespace AppletGateway

namespace Service

open Link (Exchanged)

variable {app : String} {s : Service Attended} {t t' : Turn Attended} {α : Type}

/-- The row of `app`, or a fresh one, is right about its provisioning handle. -/
def Tracks (app : String) (s : Service Attended) : Prop := Agrees app (s.turn app)

theorem Agrees.congr (h : Agrees app t) (hrow : t'.row = t.row) (hlink : t'.link = t.link) :
    Agrees app t' := by
  obtain ⟨row, tokens, link⟩ := t'
  obtain rfl : row = t.row := hrow
  obtain rfl : link = t.link := hlink
  exact ⟨h.own_name, h.sane, h.past, h.unloaded, h.recorded⟩

/-- A fresh row is right. -/
theorem agrees_fresh {l : Link Attended} (h : l.Sane) (tokens : Tokens) :
    Agrees app ⟨.fresh app, tokens, l⟩ :=
  ⟨rfl, h, nofun, fun _ => rfl, nofun⟩

/-- A turn that leaves the row right or about to go away leaves the registry right. -/
theorem tracks_settled (h : Agrees app t ∨ t.row.retiring = true) (hs : t.link.Sane) :
    Tracks app (s.settled app t) := by
  have hrow : (s.settled app t).registry.rowOrFresh app =
      if t.row.retiring || t.row.isVacant then .fresh app else t.row :=
    Registry.rowOrFresh_settle _ _ _
  by_cases hdrop : (t.row.retiring || t.row.isVacant) = true
  · rw [if_pos hdrop] at hrow
    exact (agrees_fresh hs t.tokens).congr hrow rfl
  · rw [if_neg hdrop] at hrow
    have hagrees := h.resolve_right fun hr => hdrop (by rw [hr]; rfl)
    exact hagrees.congr hrow rfl

/-! ## Other apps -/

theorem Evolves.agrees_of_ne {other : String} {u u' : Turn Attended} (h : Evolves other u u')
    (hne : other ≠ app) (ha : Agrees app { t with link := u.link }) :
    Agrees app { t with link := u'.link } := by
  induction h with
  | refl => exact ha
  | exchange _ q hq ih =>
    have hkeep := ih.exchange (q := q) fun d a token _ hn htoken => ⟨token,
      (Device.get?_handle_of_ne hn.below (by rw [hq]; exact hne.symm) a token).mpr htoken⟩
    exact Agrees.congr hkeep.1 rfl rfl
  | edit _ _ ih => exact ih
  | @issue u' _ owner ih =>
    have hlink : ((issueToken owner).run u').2.link = u'.link := rfl
    rw [hlink]
    exact ih

theorem Turned.agrees_of_ne {other : String} {o : Operation} {u u' : Turn Attended}
    {r : Except Status α} (h : Turned o other u r u') (hne : other ≠ app)
    (ha : Agrees app { t with link := u.link }) : Agrees app { t with link := u'.link } := by
  cases r with
  | error e => exact Evolves.agrees_of_ne h hne ha
  | ok a =>
    obtain ⟨u₁, row, h₁, _, h₂⟩ := h
    exact h₂.agrees_of_ne hne (h₁.agrees_of_ne hne ha)

/-- An operation on another app leaves the row right. -/
theorem Tracks.perform_of_ne (hs : s.registry.Sound) (h : Tracks app s) {o : Operation}
    (hi : o ≠ .init) (hd : o ≠ .deinit) (ht : target s o ≠ some app) :
    Ends (Service.perform o) s fun _ s' => Tracks app s' := by
  refine (ends_perform hs hi hd).mono fun r s' hp => ?_
  cases hp with
  | refused e => exact h
  | idle a _ => exact h
  | @turn other r t htarget hturn =>
    have hne : other ≠ app := by
      rintro rfl
      exact ht htarget
    refine (hturn.agrees_of_ne hne (t := s.turn app) h).congr ?_ rfl
    show ((s.settled other t).registry.row? app).getD _ = (s.registry.row? app).getD _
    exact congrArg (Option.getD · _) (Registry.get?_settle_of_ne s.registry ⟨t.row, t.tokens⟩ hne)

/-! ## Tasks that only take harmless steps -/

section

variable {vacant : Bool}

theorem keeps_sessionHandle (handle : Option UInt32) :
    Keeps (Steady app vacant) (sessionHandle handle) := by
  cases handle with
  | none => exact keeps_pure _
  | some handle =>
    exact keeps_get fun t h => ((keeps_ofExcept _).bind fun _ => keeps_pure _) t h

end

/-- What only takes harmless steps leaves the row right. -/
theorem Agrees.ends_of_keeps (h : Agrees app t) {x : OnRow Attended α}
    (hx : Keeps (Steady app false) x) : Ends x t fun _ t' => Agrees app t' :=
  (hx t ⟨h, nofun⟩).mono fun _ _ h => h.agrees

theorem Inquiry.provisions {o : Operation} {handle : Option UInt32}
    {request : UInt32 → Applet.Request} {read : Applet.Reply → Except Status o.Answer}
    (h : Inquiry o app handle request read) (id : UInt32) : (request id).provisions = false := by
  cases h <;> rfl

/-! ## Starting and ending a provisioning -/

/-- A handle that the device has just given out is the one that the row records. -/
theorem Agrees.started (h : Agrees app t) (hl : t.row.loaded = true) {reply : Applet.Reply}
    {l : Link Attended}
    (hx : Exchanged t.link (.startProvisioning app) (.ok reply) l) {a : UInt32}
    (hr : reply.asHandle = .ok a) :
    Agrees app { t with row := { t.row with provisioning := some a }, link := l } := by
  have hsane := hx.sane h.sane
  cases hx with
  | @served b _ hc hb _ _ hepoch _ hdev =>
    refine ⟨h.own_name, hsane, fun _ => ?_, fun hl' => absurd (hl.symm.trans hl') nofun,
      fun _ _ _ _ a' ha' => ?_⟩
    · show t.row.openedOn ≤ l.epoch
      rw [hepoch]
      exact h.past hl
    · obtain rfl := Option.some.inj ha'
      rw [hdev]
      show ∃ token, (b.device.handle (.startProvisioning app)).2.provisioning.get? a =
        some (app, token)
      have hissued := Device.reissued_handle b.device (.startProvisioning app)
      generalize (b.device.handle (.startProvisioning app)).1 = reply at hr hissued
      generalize (b.device.handle (.startProvisioning app)).2 = d' at hissued
      cases hissued with
      | same _ _ hs =>
        obtain ⟨code, rfl⟩ := hs.resolve_left nofun
        cases hr
      | issued hq hp' _ =>
        cases hq
        obtain rfl := Except.ok.inj hr
        exact ⟨_, by rw [hp', Table.get?_set_self]⟩
      | ended hq _ _ _ _ => cases hq
      | closed hq _ _ => rcases hq with hq | hq <;> cases hq

theorem Agrees.ends_startProvisioning (h : Agrees app t) : Ends (do
    if (← get).row.provisioning.isSome then throw .invalidRequest
    ensureLoaded
    let handle ← ofExcept (← call (.startProvisioning app)).asHandle
    changeRow (Row.beginProvisioning handle)
    return handle) t fun _ t' => Agrees app t' := by
  refine ends_look (ends_reject h fun hfree => ?_)
  have hnone := Option.not_isSome_iff_eq_none.mp hfree
  rw [ends_bind]
  refine h.ends_ensureLoaded.mono fun r t₁ ⟨h₁, hp, hl⟩ => ?_
  cases r with
  | error e => exact h₁
  | ok _ =>
    have hp₁ := hp hnone
    simp only [andThen_ok, ends_bind, ends_call]
    refine (Link.ends_exchange h₁.sane.quiet _).mono fun r l hx => ?_
    cases r with
    | error e => exact h₁.exchanged_error hx
    | ok reply =>
      rw [andThen_mapError_ok, ends_bind]
      cases hr : reply.asHandle with
      | error e =>
        refine h₁.exchanged_ok hx fun _ a _ _ ha => ?_
        rw [hp₁] at ha
        cases ha
      | ok a =>
        have hbegin : Row.beginProvisioning a t₁.row =
            .ok { t₁.row with provisioning := some a } := by
          simp [Row.beginProvisioning, hp₁]
        simp only [ofExcept, ends_pure, andThen_ok, changeRow, ends_bind, ends_get, hbegin,
          modifyRow, ends_modify]
        exact h₁.started (hl rfl) hx hr

/-- Unless the provisioning has ended, the device has kept its handle. -/
theorem kept_of_not_ended {d : Device} {handle capacity : UInt32}
    (h : ∀ token, (d.handle (.endProvisioning app handle capacity)).1.asData capacity ≠
      .ok (.complete token)) :
    (d.handle (.endProvisioning app handle capacity)).2.provisioning = d.provisioning := by
  have hr := Device.reissued_handle d (.endProvisioning app handle capacity)
  generalize (d.handle (.endProvisioning app handle capacity)).1 = reply at hr h
  generalize (d.handle (.endProvisioning app handle capacity)).2 = d' at hr
  cases hr with
  | same hp _ _ => exact hp
  | issued hq _ _ => cases hq
  | @ended _ _ _ token _ hq _ hlen _ _ =>
    cases hq
    refine absurd ?_ (h token)
    simp only [Applet.Reply.asData]
    rw [Negotiation.fit_of_le hlen]
  | closed hq _ _ => rcases hq with hq | hq <;> cases hq

theorem Agrees.ends_endProvisioning (h : Agrees app t) (handle capacity : UInt32) : Ends (do
    ofExcept ((← get).row.expectProvisioning handle)
    match (← call (.endProvisioning app handle capacity)).asData capacity with
    | .ok (.complete token) => do
      modifyRow Row.endProvisioning
      return .complete token
    | .ok (.tooSmall required) => return .tooSmall required
    | .error s => do
      if s.category = .applet then modifyRow Row.endProvisioning
      throw s : OnRow Attended (Negotiated Bytes)) t fun _ t' => Agrees app t' := by
  simp only [ends_bind, ends_get, andThen_ok]
  cases t.row.expectProvisioning handle with
  | error e => exact h
  | ok _ =>
    simp only [ofExcept, ends_pure, andThen_ok, ends_bind, ends_call]
    refine (Link.ends_exchange h.sane.quiet _).mono fun r l hx => ?_
    cases r with
    | error e => exact h.exchanged_error hx
    | ok reply =>
      -- The row forgets the handle first: what the device does with it is then of no matter.
      have hforgotten : Agrees app { t with row := t.row.endProvisioning, link := l } :=
        h.endProvisioning.exchanged_ok hx fun _ _ _ _ hnone => by cases hnone
      have hkept (hne : ∀ token, reply.asData capacity ≠ .ok (.complete token)) :
          Agrees app { t with link := l } :=
        h.exchanged_ok hx fun d a token hreply _ _ htoken => ⟨token, by
          subst hreply
          rw [kept_of_not_ended hne]
          exact htoken⟩
      rw [andThen_mapError_ok]
      cases hd : reply.asData capacity with
      | error e =>
        simp only [ends_ite]
        split
        · exact hforgotten
        · refine hkept fun token ht => ?_
          rw [hd] at ht
          cases ht
      | ok out =>
        cases out with
        | complete token => exact hforgotten
        | tooSmall required =>
          refine hkept fun token ht => ?_
          rw [hd] at ht
          cases ht

/-! ## Closing sessions on the way -/

/-- An operation strands the handle of an app if it closes the session and the row stays. Binding a
handler closes a shared session, and uninstalling closes any session before it can fail. -/
def Strands (app : String) (s : Service Attended) : Operation → Prop
  | .registerEvents a h =>
    let row := s.registry.rowOrFresh app
    a = app ∧ s.options.eventsEnabled = true ∧ s.link.connected = true ∧ row.loaded = true ∧
      row.shared = true ∧ row.provisioning ≠ none ∧ row.checkBind h = .ok false
  | .startInstance _ a (some h) =>
    let row := s.registry.rowOrFresh app
    a = app ∧ s.options.eventsEnabled = true ∧ s.link.connected = true ∧ row.loaded = true ∧
      row.shared = true ∧ row.provisioning ≠ none ∧ row.token = none ∧
        ∃ bound, row.checkBind h = .ok bound
  | .uninstall a =>
    let row := s.registry.rowOrFresh app
    a = app ∧ s.options.installEnabled = true ∧ s.link.connected = true ∧ row.loaded = true ∧
      row.provisioning ≠ none ∧ ((uninstall app).run s).1 ≠ .ok ()
  | _ => False

/-- Binding a handler leaves the row right, unless it closes a shared session with a handle. -/
theorem Agrees.ends_bindHandler (h : Agrees app t) (hno : ¬ (t.row.loaded = true ∧
    t.row.shared = true ∧ t.row.provisioning ≠ none)) {x : OnRow Attended α}
    (hx : ∀ vacant, Keeps (Steady app vacant) x) :
    Ends (do
      makeExclusive
      ensureLoaded
      subscribe
      x) t fun _ t' => Agrees app t' := by
  have hrest (vacant : Bool) : Keeps (Steady app vacant) (do
      ensureLoaded
      subscribe
      x) := keeps_ensureLoaded.bind fun _ => keeps_subscribe.bind fun _ => hx vacant
  -- Without a handle the session may be closed on the way; with one it is exclusive and stays.
  by_cases hp : t.row.provisioning = none
  · exact ((keeps_makeExclusive.bind fun _ => hrest true) t ⟨h, fun _ => hp⟩).mono
      fun _ _ h => h.agrees
  · have hs : ¬ (t.row.loaded = true ∧ t.row.shared = true) := fun ⟨hl, hs⟩ => hno ⟨hl, hs, hp⟩
    rw [ends_bind]
    have hsteady : Steady app false t := ⟨h, nofun⟩
    refine (hsteady.ends_makeExclusive hs).mono fun r t' h' => ?_
    cases r with
    | error e => exact h'.agrees
    | ok _ => exact (hrest false t' h').mono fun _ _ h => h.agrees

/-- What has uninstalled an app drops the row. -/
theorem ends_uninstalled {x : OnRow Attended Unit} (hx : Ends x t (Turned (.uninstall app) app t))
    (hs : t.link.Sane) (hok : (x.run t).1 = .ok ()) :
    Ends x t fun _ t' => (Agrees app t' ∨ t'.row.retiring = true) ∧ t'.link.Sane := by
  unfold Ends at hx ⊢
  rw [hok] at hx
  refine ⟨.inr ?_, hx.sane hs⟩
  obtain ⟨t₁, row, _, hrow, h₂⟩ := hx
  obtain rfl : row = t₁.row.retire := hrow
  exact h₂.retiring

/-- Uninstalling leaves the row right or gone. With a handle it can only succeed, or it strands the
handle. -/
theorem ends_uninstall (hs : Healthy s) (ha : Admitted s (.uninstall app) app) (h : Tracks app s)
    (hn : ¬ Strands app s (.uninstall app)) : Ends (do
      unsubscribeQuietly
      closeQuietly
      ofExcept (← call (.uninstall app)).asDone
      modifyRow Row.retire) (s.turn app) fun _ t =>
        (Agrees app t ∨ t.row.retiring = true) ∧ t.link.Sane := by
  have hi : s.options.installEnabled = true := Bool.of_not_eq_false ha.enabled
  by_cases hp : (s.turn app).row.provisioning = none
  · have hkeeps : Keeps (Steady app true) (do
        unsubscribeQuietly
        closeQuietly
        ofExcept (← call (.uninstall app)).asDone
        modifyRow Row.retire) :=
      keeps_unsubscribeQuietly.bind fun _ => keeps_closeQuietly.bind fun _ =>
        (keeps_call (.inr rfl)).bind fun _ => (keeps_ofExcept _).bind fun _ => keeps_retire
    exact (hkeeps _ ⟨h, fun _ => hp⟩).mono fun _ _ h => ⟨.inl h.agrees, h.agrees.sane⟩
  · have hl : (s.turn app).row.loaded = true :=
      Bool.of_not_eq_false fun hl => hp (Agrees.unloaded h hl)
    have hok : ((uninstall app).run s).1 = .ok () :=
      Classical.byContradiction fun hfail => hn ⟨rfl, hi, ha.connected, hl, hp, hfail⟩
    refine ends_uninstalled ((Task.uninstall app).turns _ (Agrees.own_name h)) hs.sane ?_
    refine Eq.trans ?_ hok
    exact guards_requireInstall.pass (f := fun _ => _) (Q := fun r _ => _ = r) hi
      (guards_requireInit.pass ha.connected rfl)

/-- Stopping an instance drops the row. -/
theorem Agrees.ends_retire (h : Agrees app t) : Ends (do
    unsubscribeQuietly
    closeQuietly
    modifyRow Row.retire) t fun _ t' =>
      (Agrees app t' ∨ t'.row.retiring = true) ∧ t'.link.Sane := by
  rw [ends_bind]
  refine (ends_unsubscribeQuietly.and (stays_unsubscribeQuietly _ h.own_name)).mono ?_
  rintro r t₁ ⟨⟨rfl, _⟩, h₁⟩
  rw [andThen_ok, ends_bind]
  refine (ends_closeQuietly.and (stays_closeQuietly _ (h₁.row_app.trans h.own_name))).mono ?_
  rintro r t₂ ⟨⟨rfl, _⟩, h₂⟩
  exact ⟨.inr rfl, h₂.sane (h₁.sane h.sane)⟩

/-- The task of an operation that strands no handle of an app leaves its row right or gone. -/
theorem Task.tracks {o : Operation} {x : OnRow Attended o.Answer} (hx : Task o app x)
    (hs : Healthy s) (ha : Admitted s o app) (h : Tracks app s) (hn : ¬ Strands app s o) :
    Ends x (s.turn app) fun _ t => (Agrees app t ∨ t.row.retiring = true) ∧ t.link.Sane := by
  have hright {α : Type} {x : OnRow Attended α} (hx : Ends x (s.turn app) fun _ t => Agrees app t) :
      Ends x (s.turn app) fun _ t => (Agrees app t ∨ t.row.retiring = true) ∧ t.link.Sane :=
    hx.mono fun _ _ h => ⟨.inl h, h.sane⟩
  have h : Agrees app (s.turn app) := h
  cases hx with
  | @inquiry _ _ handle _ _ hi =>
    exact hright <| h.ends_of_keeps <| (keeps_sessionHandle handle).bind fun id =>
      keeps_ensureLoaded.bind fun _ => (keeps_call (.inl (hi.provisions id))).bind fun _ =>
        keeps_ofExcept _
  | startProvisioning => exact hright h.ends_startProvisioning
  | endProvisioning _ handle capacity => exact hright (h.ends_endProvisioning handle capacity)
  | install =>
    exact hright <| h.ends_of_keeps <| (keeps_call (.inl rfl)).bind fun _ =>
      (keeps_ofExcept _).bind fun _ => keeps_ensureLoaded
  | uninstall => exact ends_uninstall hs ha h hn
  | appInstance =>
    refine hright (ends_look (ends_reject h fun _ => h.ends_of_keeps ?_))
    exact (keeps_issueToken Steady.sameSession _).bind fun _ => keeps_pure _
  | registerEvents _ handler =>
    refine hright (ends_look ?_)
    cases hb : (s.turn app).row.checkBind handler with
    | error e => exact h
    | ok bound =>
      cases bound with
      | true => exact h
      | false =>
        refine h.ends_bindHandler ?_ fun _ => keeps_bind Steady.sameSession handler
        rintro ⟨hl, hsh, hp⟩
        have he : s.options.eventsEnabled = true := Bool.of_not_eq_false ha.enabled
        exact hn ⟨rfl, he, ha.connected, hl, hsh, hp, hb⟩
  | unregisterEvents =>
    exact hright <| h.ends_of_keeps <| keeps_unsubscribeQuietly.bind fun _ =>
      keeps_modifyRow fun _ => ⟨rfl, rfl, rfl, rfl, rfl⟩
  | startInstance =>
    refine hright (ends_look (ends_reject h fun _ => h.ends_of_keeps ?_))
    exact keeps_ensureLoaded.bind fun _ => keeps_issueToken Steady.sameSession _
  | startListening _ _ handler =>
    refine hright (ends_look (ends_reject h fun htok => ends_look ?_))
    cases hb : (s.turn app).row.checkBind handler with
    | error e => exact h
    | ok bound =>
      refine h.ends_bindHandler ?_ fun _ => (keeps_bind Steady.sameSession handler).bind fun _ =>
        keeps_issueToken Steady.sameSession _
      rintro ⟨hl, hsh, hp⟩
      have he : s.options.eventsEnabled = true := Bool.of_not_eq_false ha.enabled
      have htok := Option.not_isSome_iff_eq_none.mp htok
      exact hn ⟨rfl, he, ha.connected, hl, hsh, hp, htok, bound, hb⟩
  | stopInstance =>
    exact ends_look (ends_reject ⟨.inl h, h.sane⟩ fun _ => h.ends_retire)

/-! ## Every move -/

/-- An operation that strands no handle of an app leaves its row right. -/
theorem Tracks.perform (hs : Healthy s) (h : Tracks app s) {o : Operation}
    (hn : ¬ Strands app s o) : Ends (Service.perform o) s fun _ s' => Tracks app s' := by
  by_cases hi : o = .init
  · subst hi
    refine ends_init.mpr <| (Link.ends_connect hs.sane.quiet).mono fun r l hl => ?_
    rcases hl with ⟨_, _, rfl⟩ | ⟨_, hover, _⟩
    · exact h
    · exact Agrees.startedOver h hover (hover.sane hs.sane)
  by_cases hd : o = .deinit
  · subst hd
    refine (ends_deinit hs.sane).mono fun r s' h' => ?_
    rcases h' with ⟨_, ⟨_, rfl⟩ | ⟨_, hreg, hsane, _⟩⟩
    · exact h
    · refine (agrees_fresh hsane s'.registry.tokens).congr ?_ rfl
      show (s'.registry.row? app).getD _ = _
      rw [hreg]
      rfl
  by_cases ht : target s o = some app
  · refine ends_perform_of_tasks hi hd (fun _ _ => h) (fun _ _ => h) fun other x ha hx => ?_
    obtain rfl : other = app := Option.some.inj (ha.target.symm.trans ht)
    exact (hx.tracks hs ha h hn).mono fun _ _ h => tracks_settled h.1 h.2
  · exact Tracks.perform_of_ne hs.sound h hi hd ht

theorem Tracks.poll (hs : Healthy s) (h : Tracks app s) : Tracks app (move .poll s) := by
  have hpoll : Ends pollEvents s fun _ s' => Healthy s' → Tracks app s' := by
    refine ends_pollEvents.mpr <| (Link.ends_pollEvents hs.sane.quiet).mono fun r l hp hs' => ?_
    rcases hp with ⟨_, _, _, hc, he, hsame⟩ | ⟨_, _, hover⟩
    · exact Agrees.of_sameSessions h hs'.sane hc he hsame
    · exact Agrees.startedOver h hover hs'.sane
  exact hpoll hs.poll

theorem Tracks.control (hs : Healthy s) (h : Tracks app s) (c : Control) :
    Tracks app (move (.control c) s) :=
  Agrees.of_sameSessions h (hs.control c).sane rfl rfl (Device.SameSessions.apply c _)

/-- The run strands no handle of an app. -/
def Spares (app : String) : List Move → Service Attended → Prop
  | [], _ => True
  | m :: ms, s => (∀ o, m = .perform o → ¬ Strands app s o) ∧ Spares app ms (move m s)

/-- A run that strands no handle of an app leaves its row right. -/
theorem Tracks.run {ms : List Move} (hs : Healthy s) (h : Tracks app s)
    (hspares : Spares app ms s) : Tracks app (run ms s) := by
  induction ms generalizing s with
  | nil => exact h
  | cons m ms ih =>
    obtain ⟨hm, hms⟩ := hspares
    refine ih (hs.move m) ?_ hms
    cases m with
    | perform o => exact Tracks.perform hs h (hm o rfl)
    | poll => exact Tracks.poll hs h
    | control c => exact Tracks.control hs h c

end Service

end AppletGateway
