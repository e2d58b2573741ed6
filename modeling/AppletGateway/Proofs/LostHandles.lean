import AppletGateway.Proofs.Lasting

/-!
# The handle of a lost connection

A provisioning handle is gone with the connection on which it was given out, and opening the session
again makes the row forget it. Until then the row still records it, and it is checked against before
the session is opened again. So to start a provisioning is refused, and an operation to which the
caller gives the old handle passes the check: it is sent at once if the operation is to end the
provisioning, and otherwise once the session is open again.

Results:
* `Service.ends_ensureLoaded_lost`: how a session is opened again.
* `Service.talks_own`: what goes out in an operation.
* `Service.Outdated.ends_perform`, `Service.Outdated.ends_endProvisioning`: when the handle does.
* `Service.lost_handle`: on another connection than the one of its session an app cannot start a
  provisioning, and the operations that put its old handle on the link are these.
-/

namespace AppletGateway

open Applet (noHandle)
open Link (Talk Converses Submits)
open Packed (pack)

/-- A request about the app carries the handle. -/
def Link.Carries (app : String) (handle : UInt32) (talk : Talk) : Prop :=
  ∃ e ∈ talk, e.1.app = app ∧ e.1.handle? = some handle

/-- The request that an operation is there to make is about the app, carries the handle and fits
into a frame. -/
def Operation.Sends (o : Operation) (app : String) (handle : UInt32) : Prop :=
  ∃ q, o.request? = some q ∧ q.app = app ∧ q.handle? = some handle ∧ Frame.encode (pack q) ≠ none

/-- The session of a row is opened in the conversation, and subscribed to if a handler is bound. -/
def Row.Reopened (row : Row) (talk : Talk) : Prop :=
  (.openSession row.app row.shared, .ok .done) ∈ talk ∧
    (row.callback.isSome = true → (.subscribe row.app, .ok .done) ∈ talk)

/-- What an operation does to the link after its last request: the operations that connect and tear
down change the connection. -/
def Operation.leave {τ : Type} [Transport τ] : Operation → Link τ → Link τ
  | .init, l => (Link.connect.run l).2
  | .deinit, l => (Link.disconnect.run l).2
  | _, l => l

namespace Service

variable {τ : Type} [Transport τ] {α : Type} {o : Operation} {app : String} {handle : UInt32}
  {s : Service τ} {t t' : Turn τ} {talk : Talk} {l l' : Link τ}

/-- Requests that carry no handle do not carry this one. -/
theorem not_carries (h : ∀ e ∈ talk, e.1.handle? = none) : ¬ Link.Carries app handle talk := by
  rintro ⟨e, he, _, hh⟩
  cases (h e he).symm.trans hh

theorem handle?_of_seats {q : Applet.Request} (h : q.seats = true) : q.handle? = none := by
  cases q <;> first | rfl | cases h

theorem not_reopened_nil (row : Row) : ¬ row.Reopened [] := fun h => nomatch h.1

theorem reopened_append {row : Row} (h : row.Reopened talk) (talk' : Talk) :
    row.Reopened (talk ++ talk') :=
  ⟨List.mem_append_left _ h.1, fun hb => List.mem_append_left _ (h.2 hb)⟩

/-- Whether a session is opened shows in what has gone out. -/
theorem reopened_sent {row : Row} {sent : Talk} (hpart : sent ⊆ talk)
    (hreplied : ∀ e ∈ talk, (∃ reply, e.2 = .ok reply) → e ∈ sent) :
    row.Reopened sent ↔ row.Reopened talk := by
  refine ⟨fun h => ⟨hpart h.1, fun hb => hpart (h.2 hb)⟩, fun h => ⟨?_, fun hb => ?_⟩⟩
  · exact hreplied _ h.1 ⟨.done, rfl⟩
  · exact hreplied _ (h.2 hb) ⟨.done, rfl⟩

/-! ## Opening the session again -/

theorem converses_opened (hd : t.answer t.opening = .ok .done) :
    Converses t.link [(t.opening, .ok .done)] t.opened.link := by
  have h := Converses.single t.link t.opening
  rwa [show ((Link.exchange t.opening).run t.link).1 = .ok .done from hd] at h

/-- The requests by which a session is opened again. None carries a handle, and they are answered as
done exactly if opening the session succeeds; then the link is connected. -/
theorem ends_ensureLoaded_lost (ho : t.row.openedOn ≠ t.link.epoch) :
    Ends ensureLoaded t fun r t' => ∃ talk, Converses t.link talk t'.link ∧
      (∀ e ∈ talk, e.1.handle? = none) ∧ ((∃ a, r = .ok a) ↔ t.row.Reopened talk) ∧
      ∀ a, r = .ok a → t'.link.connected = true := by
  show Ends (dropStale >>= _) t _
  rw [ends_bind]
  refine ends_dropStale.mono fun r t₁ ⟨hr, h₁⟩ => ?_
  subst hr
  obtain ⟨hlink, hstale, hsame⟩ : t₁.link = t.link ∧ t₁.row.loaded = false ∧
      t₁.row.Reopened = t.row.Reopened := by
    rw [h₁]
    dsimp only
    split
    · exact ⟨rfl, rfl, rfl⟩
    · rename_i hl
      exact ⟨rfl, Bool.eq_false_iff.mpr fun hl' => hl ⟨hl', ho⟩, rfl⟩
  rw [← hlink, ← hsame]
  clear h₁ hlink hsame
  rw [andThen_ok, ends_bind, ends_get, andThen_ok, ends_ite, if_neg (by simp [hstale])]
  refine (insists_asDone_bind _).ends (q := t₁.opening) (fun hno e => ?_) fun hd => ?_
  · have hfailed : ¬ t₁.row.Reopened [(t₁.opening, t₁.answer t₁.opening)] := fun hre =>
      hno (congrArg Prod.snd (List.mem_singleton.mp hre.1)).symm
    exact ⟨_, .single _ _, List.forall_mem_singleton.mpr rfl, iff_of_false nofun hfailed, nofun⟩
  have hopen := converses_opened hd
  simp only [ofExcept, Applet.Reply.asDone, ends_bind, ends_pure, andThen_ok, modifyRow,
    ends_modify]
  show Ends (if t₁.row.callback.isSome = true then subscribe else pure ()) t₁.opened _
  split
  · rename_i hb
    rw [subscribe, ends_bind, ends_get, andThen_ok]
    have htalk := hopen.append (.single t₁.opened.link (.subscribe t₁.row.app))
    have hnone : ∀ e ∈ [(t₁.opening, .ok .done)] ++ [(.subscribe t₁.row.app, t₁.opened.answer
        (.subscribe t₁.row.app))], e.1.handle? = none :=
      List.forall_mem_cons.mpr ⟨rfl, List.forall_mem_singleton.mpr rfl⟩
    refine insists_asDone.ends (q := .subscribe t₁.row.app) (fun hno e => ?_) fun hs => ?_
    · refine ⟨_, htalk, hnone, iff_of_false nofun fun hre => ?_, nofun⟩
      rcases List.mem_cons.mp (hre.2 hb) with h | h
      · cases congrArg Prod.fst h
      · exact hno (congrArg Prod.snd (List.mem_singleton.mp h)).symm
    · have hre : t₁.row.Reopened ([(t₁.opening, .ok .done)] ++ [(.subscribe t₁.row.app,
          t₁.opened.answer (.subscribe t₁.row.app))]) := by
        refine ⟨List.mem_cons_self, fun _ => List.mem_cons_of_mem _ ?_⟩
        exact List.mem_singleton.mpr (congrArg (_, ·) hs.symm)
      exact ⟨_, htalk, hnone, iff_of_true ⟨_, rfl⟩ hre, fun _ _ => Link.connected_of_replied hs⟩
  · rename_i hb
    have hre : t₁.row.Reopened [(t₁.opening, .ok .done)] :=
      ⟨List.mem_singleton.mpr rfl, fun hb' => absurd hb' hb⟩
    exact ⟨_, hopen, List.forall_mem_singleton.mpr rfl, iff_of_true ⟨_, rfl⟩ hre,
      fun _ _ => Link.connected_of_replied hd⟩

/-! ## What operations ask -/

/-- These are the requests that go out in the operation, and their answers. -/
def Talks (o : Operation) (s : Service τ) (talk : Talk) : Prop :=
  ∃ l, Submits s.link talk l ∧ ((perform o).run s).2.link = o.leave l

theorem leave_of_ne (hi : o ≠ .init) (hd : o ≠ .deinit) (l : Link τ) : o.leave l = l := by
  cases o with
  | init => exact absurd rfl hi
  | deinit => exact absurd rfl hd
  | _ => rfl

theorem converses_own (hs : s.registry.Sound) (o : Operation) :
    ∃ talk, (∃ l, Converses s.link talk l ∧ ((perform o).run s).2.link = o.leave l) ∧
      ∀ e ∈ talk, e.1.seats = true ∨ o.request? = some e.1 := by
  by_cases hi : o = .init
  · subst hi
    exact ⟨[], ⟨s.link, .nil _, rfl⟩, nofun⟩
  by_cases hd : o = .deinit
  · subst hd
    have hrun : ((perform .deinit).run s).2 = _ := congrArg Prod.snd (run_deinit s)
    cases hc : s.link.connected with
    | false =>
      rw [hc] at hrun
      refine ⟨[], ⟨s.link, .nil _, ?_⟩, nofun⟩
      have hdown := Link.run_disconnect s.link
      rw [hc] at hdown
      rw [hrun]
      exact hdown.symm
    | true =>
      rw [hc] at hrun
      obtain ⟨talk, hconv, hends⟩ := converses_closeDrained (Registry.drain.run s.registry).1 s.link
      refine ⟨talk, ⟨_, hconv, by rw [hrun]; rfl⟩, fun e he => .inl ?_⟩
      obtain ⟨app, h | h⟩ := hends e he <;> rw [h] <;> rfl
  refine (ends_goes hs hi hd).mono (R := fun _ s' => ∃ talk, (∃ l, Converses s.link talk l ∧
    s'.link = o.leave l) ∧ ∀ e ∈ talk, e.1.seats = true ∨ o.request? = some e.1)
    fun r s' hg => ?_
  cases hg with
  | nothing => exact ⟨[], ⟨s.link, .nil _, (leave_of_ne hi hd _).symm⟩, nofun⟩
  | @turn other t _ _ hended =>
    obtain ⟨talk, hconv, hasks⟩ := hended.conversed (hs.app_rowOrFresh other)
    exact ⟨talk, ⟨t.link, hconv, (leave_of_ne hi hd _).symm⟩, fun e he => (hasks e he).seats⟩

/-- Besides the request that it is there to make an operation asks for sessions and subscriptions
only. -/
theorem talks_own (hs : s.registry.Sound) (o : Operation) :
    ∃ talk, Talks o s talk ∧ ∀ e ∈ talk, e.1.seats = true ∨ o.request? = some e.1 := by
  obtain ⟨talk, ⟨l, hc, hl⟩, hown⟩ := converses_own hs o
  obtain ⟨sent, hsent, hpart, _⟩ := hc.submits
  exact ⟨sent, ⟨l, hsent, hl⟩, fun e he => hown e (hpart he)⟩

/-! ## Handles of a lost connection -/

/-- The session of the app's row was opened on another connection than the current one, and the row
records a handle. -/
structure Outdated (s : Service τ) (app : String) (row : Row) (handle : UInt32) : Prop where
  held : s.registry.row? app = some row
  lost : row.openedOn ≠ s.link.epoch
  recorded : row.provisioning = some handle

/-- Between the two links the handle is sent for the app exactly if the session is opened again. -/
def Resends (row : Row) (app : String) (handle : UInt32) (l l' : Link τ) : Prop :=
  ∃ talk, Submits l talk l' ∧ (Link.Carries app handle talk ↔ row.Reopened talk)

theorem resends_refl (row : Row) (l : Link τ) : Resends row app handle l l :=
  ⟨[], .nil l, iff_of_false (not_carries nofun) (not_reopened_nil row)⟩

variable {row : Row} {given : Option UInt32}

omit [Transport τ] in
theorem Outdated.turn_row (h : Outdated s app row handle) : (s.turn app).row = row :=
  Registry.rowOrFresh_of_row? h.held

omit [Transport τ] in
/-- The handle that the row records passes the check. -/
theorem run_sessionHandle (hp : t.row.provisioning = some handle)
    (hg : given.getD noHandle = handle) : (sessionHandle given).run t = (.ok handle, t) := by
  cases given with
  | none =>
    subst hg
    rfl
  | some given =>
    obtain rfl : given = handle := hg
    have hcheck : t.row.expectProvisioning given = .ok () := if_pos hp
    show (ofExcept (t.row.expectProvisioning given) >>= fun _ => pure given : OnRow τ UInt32).run t
      = _
    rw [hcheck]
    rfl

/-- The common course of requests over a session that is opened again. -/
theorem Outdated.ends_session (h : Outdated s app row handle) {request : UInt32 → Applet.Request}
    (hg : given.getD noHandle = handle) (happ : (request handle).app = app)
    (hh : (request handle).handle? = some handle)
    (hfits : Frame.encode (pack (request handle)) ≠ none) {read : Applet.Reply → Except Status α} :
    Ends (do
      let handle ← sessionHandle given
      ensureLoaded
      ofExcept (read (← call (request handle)))) (s.turn app) fun _ t =>
        Resends row app handle s.link t.link := by
  have hrow := h.turn_row
  have hhandle : Ends (sessionHandle given) (s.turn app) fun r t' =>
      r = .ok handle ∧ t' = s.turn app := by
    unfold Ends
    rw [run_sessionHandle (hrow ▸ h.recorded) hg]
    exact ⟨rfl, rfl⟩
  rw [ends_bind]
  refine hhandle.mono ?_
  rintro _ _ ⟨rfl, rfl⟩
  rw [andThen_ok, ends_bind]
  refine (ends_ensureLoaded_lost (hrow ▸ h.lost)).mono fun r t' hopen => ?_
  obtain ⟨talk, hc, hnone, hre, hup⟩ := hopen
  rw [hrow] at hre
  obtain ⟨sent, hsent, hpart, hreplied⟩ := hc.submits
  rw [← reopened_sent hpart hreplied] at hre
  cases r with
  | error e =>
    refine ⟨sent, hsent, iff_of_false (not_carries fun e he => hnone e (hpart he)) fun hre' => ?_⟩
    obtain ⟨a, ha⟩ := hre.mpr hre'
    cases ha
  | ok a =>
    -- Whatever the answer, the request has gone out.
    have hdone (t₂ : Turn τ) (hl : t₂.link = (t'.after (request handle)).link) :
        Resends row app handle s.link t₂.link := by
      rw [hl]
      refine ⟨_, hsent.append (.single (hup a rfl) hfits), iff_of_true ?_
        (reopened_append (hre.mp ⟨a, rfl⟩) _)⟩
      exact ⟨_, List.mem_append_right _ (List.mem_singleton.mpr rfl), happ, hh⟩
    rw [andThen_ok]
    refine ends_call_bind (fun _ _ => hdone _ rfl) fun reply _ => ?_
    cases read reply <;> exact hdone _ rfl

/-- An operation that sends the handle, other than the one to end the provisioning, sends it if the
session is opened again. -/
theorem Outdated.ends_perform (h : Outdated s app row handle) (hsend : o.Sends app handle)
    (hend : ∀ capacity, o ≠ .endProvisioning app handle capacity) :
    Ends (perform o) s fun _ s' => Resends row app handle s.link s'.link := by
  obtain ⟨q, hq, happ, hh, hfits⟩ := hsend
  have hi : o ≠ .init := by
    rintro rfl
    cases hq
  have hd : o ≠ .deinit := by
    rintro rfl
    cases hq
  refine ends_perform_of_tasks hi hd (fun _ _ => resends_refl row _) (fun _ _ => resends_refl row _)
    fun app' x _ htask => ?_
  cases htask with
  | inquiry hinquiry =>
    obtain rfl := Option.some.inj (hinquiry.request?.symm.trans hq)
    obtain rfl := (hinquiry.request_app _).symm.trans happ
    obtain rfl := hinquiry.handle_of_request hh
    exact h.ends_session rfl happ hh hfits
  | endProvisioning app' handle' capacity =>
    cases hq
    cases happ
    cases hh
    exact absurd rfl (hend capacity)
  | startProvisioning | install | uninstall =>
    cases hq
    cases hh
  | appInstance | registerEvents | unregisterEvents | startInstance | startListening
  | stopInstance => cases hq

/-- The operation to end the provisioning sends the handle at once. -/
theorem Outdated.ends_endProvisioning (h : Outdated s app row handle)
    (hc : s.link.connected = true) {capacity : UInt32}
    (hfits : Frame.encode (pack (Applet.Request.endProvisioning app handle capacity)) ≠ none) :
    Ends (endProvisioning app handle capacity) s fun _ s' =>
      ∃ talk, Submits s.link talk s'.link ∧ Link.Carries app handle talk := by
  have hcheck : (s.turn app).row.expectProvisioning handle = .ok () := by
    rw [h.turn_row]
    exact if_pos h.recorded
  have hdone (t' : Turn τ)
      (hl : t'.link = ((Link.exchange (.endProvisioning app handle capacity)).run s.link).2) :
      ∃ talk, Submits s.link talk t'.link ∧ Link.Carries app handle talk := by
    have hsent := Submits.single hc hfits
    rw [← hl] at hsent
    exact ⟨_, hsent, _, List.mem_singleton.mpr rfl, rfl, rfl⟩
  refine guards_requireInit.pass hc ?_
  rw [ends_onExisting, if_neg (by simp [h.held]), ends_bind, ends_get, andThen_ok, hcheck, ofExcept,
    ends_bind, ends_pure, andThen_ok]
  refine ends_call_bind (fun _ _ => hdone _ rfl) fun reply _ => ?_
  rcases reply.asData capacity with e | (token | required)
  · rw [ends_ite]
    split <;> exact hdone _ rfl
  · exact hdone _ rfl
  · exact hdone _ rfl

omit [Transport τ] in
/-- A turn that leaves the row of the app as it is changes nothing. -/
theorem Outdated.settled_turn (h : Outdated s app row handle) (hs : s.registry.Sound) :
    s.settled app (s.turn app) = s := by
  have hkept : ((s.turn app).row.retiring || (s.turn app).row.isVacant) = false := by
    have hstay : (s.turn app).row.retiring = false := hs.staying_rowOrFresh app
    rw [hstay, h.turn_row, Row.isVacant, h.recorded, Option.isNone_some, Bool.and_false]
    rfl
  have hset : s.registry.rows.set app (s.turn app).row = s.registry.rows := by
    rw [h.turn_row]
    exact Table.set_get? h.held
  have hsettle : s.registry.settle app ⟨(s.turn app).row, s.registry.tokens⟩ = s.registry := by
    rw [Registry.settle, hkept, if_neg Bool.false_ne_true, hset]
  show { s with registry := s.registry.settle app ⟨(s.turn app).row, s.registry.tokens⟩ } = s
  rw [hsettle]

/-- Starting a provisioning is refused because of the handle that the row records. -/
theorem Outdated.run_startProvisioning (h : Outdated s app row handle) (hs : s.registry.Sound) :
    (startProvisioning app).run s =
      (.error (if s.link.connected then .invalidRequest else .libraryNotInitialized), s) := by
  have hends : Ends (startProvisioning app) s fun r s' => r =
      .error (if s.link.connected then .invalidRequest else .libraryNotInitialized) ∧ s' = s := by
    refine guards_requireInit.ends (fun hc => ⟨by rw [hc]; rfl, rfl⟩) fun hc => ?_
    have hrecorded : (s.turn app).row.provisioning.isSome = true := by
      rw [h.turn_row, h.recorded]
      rfl
    rw [ends_onRow, ends_bind, ends_get, andThen_ok, ends_ite, if_pos hrecorded, hc]
    exact ⟨rfl, h.settled_turn hs⟩
  exact Prod.ext hends.1 hends.2

/-- The operations that ask for something with the old handle. -/
theorem Outdated.talks (h : Outdated s app row handle) (hs : s.registry.Sound) (o : Operation) :
    ∃ talk, Talks o s talk ∧ (Link.Carries app handle talk ↔
      s.link.connected = true ∧ o.Sends app handle ∧
        ((∃ capacity, o = .endProvisioning app handle capacity) ∨ row.Reopened talk)) := by
  obtain ⟨talk, ⟨l, hsent, hl⟩, hown⟩ := talks_own hs o
  cases hup : s.link.connected with
  | false =>
    obtain rfl := hsent.eq_nil_of_down hup
    exact ⟨[], ⟨l, hsent, hl⟩, iff_of_false (not_carries nofun) fun h => Bool.false_ne_true h.1⟩
  | true =>
    by_cases hsend : o.Sends app handle
    · by_cases hend : ∃ capacity, o = .endProvisioning app handle capacity
      · obtain ⟨capacity, rfl⟩ := hend
        obtain ⟨q, hq, _, _, hfits⟩ := id hsend
        cases hq
        obtain ⟨talk, hsent, hcarries⟩ := h.ends_endProvisioning hup hfits
        exact ⟨talk, ⟨_, hsent, rfl⟩, iff_of_true hcarries ⟨rfl, hsend, .inl ⟨capacity, rfl⟩⟩⟩
      · obtain ⟨talk, hsent, hiff⟩ := h.ends_perform hsend fun capacity ho => hend ⟨capacity, ho⟩
        refine ⟨talk, ⟨_, hsent, ?_⟩, hiff.trans ⟨fun hre => ⟨rfl, hsend, .inr hre⟩, ?_⟩⟩
        · obtain ⟨q, hq, _⟩ := hsend
          refine (leave_of_ne ?_ ?_ _).symm
          · rintro rfl
            cases hq
          · rintro rfl
            cases hq
        · rintro ⟨_, _, hend' | hre⟩
          · exact absurd hend' hend
          · exact hre
    · refine ⟨talk, ⟨l, hsent, hl⟩, iff_of_false ?_ fun h => hsend h.2.1⟩
      rintro ⟨e, he, happ, hh⟩
      rcases hown e he with hseats | hq
      · cases (handle?_of_seats hseats).symm.trans hh
      · exact hsend ⟨e.1, hq, happ, hh, hsent.fits e he⟩

/-- After every run: if the session of an app's row was opened on another connection than the
current one and the row records a handle, starting a provisioning is refused, for the sake of this
handle if the link is connected. And then the operations that put the handle on the link are the one
to end the provisioning with it, and those that the caller gives it to and that open the session
again on their way. -/
theorem lost_handle (apps : List String) (client : Guid) (options : ServiceOptions)
    (agenda : List (List Control)) (ms : List Move) {app : String} {row : Row} {handle : UInt32}
    (h : Outdated (run ms (start apps client options agenda)) app row handle) :
    let s := run ms (start apps client options agenda)
    (startProvisioning app).run s =
        (.error (if s.link.connected then .invalidRequest else .libraryNotInitialized), s) ∧
      ∀ o, ∃ talk, Talks o s talk ∧ (Link.Carries app handle talk ↔
        s.link.connected = true ∧ o.Sends app handle ∧
          ((∃ capacity, o = .endProvisioning app handle capacity) ∨ row.Reopened talk)) := by
  intro s
  have hs := ((healthy_start apps client options agenda).run ms).sound
  exact ⟨h.run_startProvisioning hs, h.talks hs⟩

/-- A garbled reply ends the connection. Its handle keeps the provisioning from being started again
and reaches the device once more with the data that the app is sent. -/
theorem sendData_resends :
    ∃ s, s = run [.perform .init, .perform (.startProvisioning "a"), .control .garble,
        .perform (.otpsStatus "a" none 0)] (start ["a"] Guid.nil {} []) ∧
      (startProvisioning "a").run s = (.error .invalidRequest, s) ∧
      (∃ talk, Talks (.endProvisioning "a" 0x1000 64) s talk ∧ Link.Carries "a" 0x1000 talk) ∧
      .sendData "a" 0x1000 0 [1] ∈
        (move (.perform (.sendData "a" (some 0x1000) 0 [1])) s).link.transport.device.received := by
  refine ⟨_, rfl, ?_⟩
  have hlost : Outdated (run [.perform .init, .perform (.startProvisioning "a"), .control .garble,
      .perform (.otpsStatus "a" none 0)] (start ["a"] Guid.nil {} [])) "a"
      { app := "a", provisioning := some 0x1000, loaded := true, openedOn := 1 } 0x1000 :=
    ⟨by decide +kernel, by decide +kernel, rfl⟩
  obtain ⟨hrefused, htalks⟩ := lost_handle _ _ _ _ _ hlost
  have hup : (run [.perform .init, .perform (.startProvisioning "a"), .control .garble,
      .perform (.otpsStatus "a" none 0)] (start ["a"] Guid.nil {} [])).link.connected = true := by
    decide +kernel
  refine ⟨?_, ?_, by decide +kernel⟩
  · rw [hup] at hrefused
    exact hrefused
  · obtain ⟨talk, htalks, hiff⟩ := htalks (.endProvisioning "a" 0x1000 64)
    exact ⟨talk, htalks, hiff.mpr ⟨hup, ⟨_, rfl, rfl, rfl, by decide⟩, .inl ⟨64, rfl⟩⟩⟩

end Service

end AppletGateway
