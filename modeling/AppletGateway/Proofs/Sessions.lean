import AppletGateway.Proofs.Lasting

/-!
# Rows and sessions agree

A row that says a session is open is right about it: on the connection under which the session was
opened the device has it, shared or not as the row says, and after that connection the device has
none. So the epoch of the row decides, and the row alone does not.

Success of an operation is another matter. Whoever binds a handler has a live session, for the
session is opened and subscribed to on the way. Where a handler is bound already, or an instance is
asked for, the row is believed as it stands.

Results:
* `Service.session_agreement`: rows and the device agree on the sessions after every run.
* `Service.live_session`: when the success of an operation stands for a live session.
-/

namespace AppletGateway

namespace Standing

variable {app : String} {q : Applet.Request} {r : Except LinkError Applet.Reply} {a a' : Standing}

/-- A session that has been opened. -/
theorem Exchanged.opened {shared : Bool} (hq : q = .openSession app shared)
    (h : Exchanged app q a (.ok .done) a') : a.connected = true ∧
      a' = { a with
        seat := { a.seat with session := some shared }
        received := a.received ++ [q] } := by
  subst hq
  cases h with
  | served hc hseat =>
    rw [if_pos (by rfl)] at hseat
    cases hseat with
    | same h =>
      obtain ⟨_, h⟩ := h rfl
      cases h
    | opened _ => exact ⟨hc, rfl⟩
    | closed hq => rcases hq with hq | hq <;> cases hq

/-- A subscription that has been made. -/
theorem Exchanged.subscribed (h : Exchanged app (.subscribe app) a (.ok .done) a') :
    a'.connected = a.connected ∧ a'.epoch = a.epoch ∧ a'.seat = .live := by
  cases h with
  | served hc hseat =>
    rw [if_pos (by rfl)] at hseat
    cases hseat with
    | same h =>
      obtain ⟨_, h⟩ := h rfl
      cases h
    | closed hq => rcases hq with hq | hq <;> cases hq
    | subscribed hx =>
      refine ⟨rfl, rfl, ?_⟩
      show Seat.mk a.seat.session true = _
      rw [hx]
      rfl

end Standing

namespace Service

variable {app : String} {o : Operation} {s : Service Attended} {t t' : Turn Attended}
  {row : Row} {a a' : Standing}

/-- What the row says of the session is how the app stands with the device. -/
structure Mirrors (row : Row) (a : Standing) : Prop where
  past : row.loaded = true → row.openedOn ≤ a.epoch
  session : row.loaded = true →
    a.seat.session = if a.connected = true ∧ row.openedOn = a.epoch then some row.shared else none

theorem mirrors_of_unloaded (h : row.loaded = false) (a : Standing) : Mirrors row a :=
  ⟨fun hl => absurd (h.symm.trans hl) nofun, fun hl => absurd (h.symm.trans hl) nofun⟩

/-- After the loss of the connection the row is right to be about an earlier one. -/
theorem Mirrors.lost (h : Mirrors row a) (hlost : a.Lost a') : Mirrors row a' := by
  have hepoch := hlost.epoch
  refine ⟨fun hl => ?_, fun hl => ?_⟩
  · have := h.past hl
    split at hepoch <;> omega
  · have hpast := h.past hl
    rw [hlost.seat, if_neg]
    · rfl
    · rintro ⟨hc, ho⟩
      rw [if_pos hc] at hepoch
      omega

theorem Mirrors.received (h : Mirrors row a) (qs : List Applet.Request) :
    Mirrors row { a with received := qs } := ⟨h.past, h.session⟩

theorem lasting_mirrors : Lasting Mirrors :=
  ⟨fun _ a => mirrors_of_unloaded rfl a, Mirrors.lost, fun qs h => h.received qs⟩

/-- A request keeps the row right if it leaves the session of the row alone. -/
theorem Mirrors.exchanged (h : Mirrors row a) {q : Applet.Request}
    {r : Except LinkError Applet.Reply} (hx : a.Exchanged app q r a')
    (hq : row.loaded = true → q.seats = false ∨ (∃ app, q = .subscribe app) ∨
      ∃ app, q = .unsubscribe app) : Mirrors row a' := by
  cases hx with
  | unsent _ _ => exact h
  | lost _ hlost _ => exact h.lost hlost
  | @served _ seat hc hseat =>
    cases hl : row.loaded with
    | false => exact mirrors_of_unloaded hl _
    | true =>
      have hsame : seat.session = a.seat.session := by
        split at hseat
        · cases hseat with
          | same _ => rfl
          | opened shared => rcases hq hl with hq | ⟨_, hq⟩ | ⟨_, hq⟩ <;> cases hq
          | closed hclose =>
            rcases hclose with rfl | rfl <;> rcases hq hl with hq | ⟨_, hq⟩ | ⟨_, hq⟩ <;> cases hq
          | subscribed _ => rfl
          | unsubscribed => rfl
        · rw [hseat]
      exact ⟨h.past, fun hl => hsame.trans (h.session hl)⟩

/-- Only what the row says of the session matters. -/
theorem Mirrors.congr (h : Mirrors row a) {row' : Row} (hl : row'.loaded = row.loaded)
    (ho : row'.openedOn = row.openedOn) (hs : row'.shared = row.shared) : Mirrors row' a := by
  refine ⟨fun hl' => ?_, fun hl' => ?_⟩
  · rw [ho]
    exact h.past (hl.symm.trans hl')
  · rw [ho, hs]
    exact h.session (hl.symm.trans hl')

/-- A row that says less is right as well. -/
theorem Mirrors.edit (h : Mirrors row a) {row' : Row} (he : row.SaysLess row') :
    Mirrors row' a := by
  rcases he.session with hl | ⟨hl, ho, hs⟩
  · exact mirrors_of_unloaded hl a
  · exact h.congr hl ho hs

/-- A row whose session has just been opened is right. -/
theorem Mirrors.opened (ho : row.openedOn = a.epoch) {q : Applet.Request}
    (hq : q = .openSession app row.shared) (hx : a.Exchanged app q (.ok .done) a') :
    Mirrors row a' := by
  obtain ⟨hc, rfl⟩ := hx.opened hq
  exact ⟨fun _ => Nat.le_of_eq ho, fun _ => (if_pos ⟨hc, ho⟩).symm⟩

/-! ## Turns -/

/-- The row of a turn is right. -/
def Mirrored (app : String) (t : Turn Attended) : Prop := Mirrors t.row (t.link.standing app)

theorem standing_after (app : String) (hs : t.link.Sane) (q : Applet.Request) :
    (t.link.standing app).Exchanged app q (t.answer q) ((t.after q).link.standing app) :=
  Link.standing_exchange hs.quiet q app

theorem mirrored_opened (ht : t.row.app = app) (hs : t.link.Sane)
    (hd : t.answer t.opening = .ok .done) : Mirrored app t.opened := by
  have hx : (t.link.standing app).Exchanged app t.opening _ (t.opened.link.standing app) :=
    standing_after _ hs t.opening
  rw [hd] at hx
  exact Mirrors.opened rfl (by rw [Turn.opening, ht]; rfl) hx

theorem Mirrored.subscribe (h : Mirrored app t) (hs : t.link.Sane) :
    Mirrored app (t.after (.subscribe app)) :=
  Mirrors.exchanged h (standing_after _ hs _) fun _ => .inr (.inl ⟨app, rfl⟩)

/-- A course leaves the row right. -/
theorem Course.mirrored (h : Course o app t t') (ht : t.row.app = app) (hs : t.link.Sane)
    (hm : Mirrored app t) : Mirrored app t' := by
  induction h with
  | start => exact hm
  | edit _ he _ ih => exact Mirrors.edit ih he
  | ask h hq hi ih =>
    refine Mirrors.exchanged ih (standing_after _ (h.sane ht hs) _) fun hl => ?_
    rcases hi with hi | ⟨hl', _⟩ | ⟨_, hi⟩
    · exact .inl hi
    · exact absurd (hl'.symm.trans hl) nofun
    · exact .inr (.inr ⟨_, hi⟩)
  | opened h _ _ hd _ => exact mirrored_opened (h.row_app.trans ht) (h.sane ht hs) hd
  | reopened h _ _ hd _ _ =>
    have hopened := mirrored_opened (h.row_app.trans ht) (h.sane ht hs) hd
    exact hopened.subscribe ((h.sane ht hs).exchange _)
  | @bound t' h _ row _ hx _ hb ih =>
    have hsub := Mirrored.subscribe ih (h.sane ht hs)
    rcases bind_cases hb with rfl | rfl
    · exact hsub
    · exact Mirrors.congr hsub rfl rfl hx.symm

/-- So does a cut. -/
theorem Cut.mirrored (h : Cut o app t t') (ht : t.row.app = app) (hs : t.link.Sane)
    (hm : Mirrored app t) : Mirrored app t' := by
  cases h with
  | reopening h _ _ hd _ =>
    have hopened := mirrored_opened (h.row_app.trans ht) (h.sane ht hs) hd
    exact hopened.subscribe ((h.sane ht hs).exchange _)
  | binding h _ _ _ => exact (h.mirrored ht hs hm).subscribe (h.sane ht hs)

/-! ## Runs -/

/-- The row of an app is right after a move if it was so before. -/
theorem mirrors_move (hs : Healthy s) (h : Holds Mirrors app s) (m : Move) :
    Holds Mirrors app (move m s) :=
  have happ := hs.sound.app_rowOrFresh app
  lasting_mirrors.move_of_turns hs h (fun hcourse => hcourse.mirrored happ hs.sane h)
    (fun hcut => hcut.mirrored happ hs.sane h) m

/-- The row of every app is right after every run. -/
theorem mirrors_run (apps : List String) (client : Guid) (options : ServiceOptions)
    (agenda : List (List Control)) (ms : List Move) (app : String) :
    Holds Mirrors app (run ms (start apps client options agenda)) := by
  have hstart := healthy_start apps client options agenda
  refine (run_induction (I := fun s => Healthy s ∧ Holds Mirrors app s) ⟨hstart, ?_⟩
    (fun m s hs => ⟨hs.1.move m, mirrors_move hs.1 hs.2 m⟩) ms).2
  exact lasting_mirrors.fresh app _

/-- After every run, whatever the operator has done in between and within the operations: if the
link is connected and a row is loaded under the epoch of this connection, then the device has a
session open for its app, which is a shared one if the row says so. -/
theorem session_agreement (apps : List String) (client : Guid) (options : ServiceOptions)
    (agenda : List (List Control)) (ms : List Move) (app : String) (row : Row) :
    let s := run ms (start apps client options agenda)
    s.link.connected = true → s.registry.row? app = some row → row.loaded = true →
      row.openedOn = s.link.epoch →
        s.link.transport.device.sessions.get? app = some row.shared := by
  intro s hc hrow hl ho
  have h : Mirrors (s.registry.rowOrFresh app) (s.link.standing app) :=
    mirrors_run apps client options agenda ms app
  rw [Registry.rowOrFresh_of_row? hrow] at h
  exact (h.session hl).trans (if_pos ⟨hc, ho⟩)

/-- The session that a row was bound to is opened again after the connection was lost, exclusive as
it was. -/
theorem session_agreement_reopened :
    ∃ s row, s = run [.perform .init, .perform (.registerEvents "a" (.own "h")), .control .garble,
        .perform (.otpsStatus "a" none 0), .perform (.otpsStatus "a" none 0)]
        (start ["a"] Guid.nil {} []) ∧
      s.link.connected = true ∧ s.registry.row? "a" = some row ∧ row.loaded = true ∧
      row.openedOn = s.link.epoch ∧ s.link.epoch = 2 ∧
      s.link.transport.device.sessions.get? "a" = some row.shared := by
  refine ⟨_, { Row.fresh "a" with
    loaded := true, openedOn := 2, shared := false, callback := some (.own "h") }, rfl, ?_⟩
  have hc := session_agreement ["a"] Guid.nil {} [] [.perform .init,
    .perform (.registerEvents "a" (.own "h")), .control .garble,
    .perform (.otpsStatus "a" none 0), .perform (.otpsStatus "a" none 0)] "a"
  generalize hs : run [.perform .init, .perform (.registerEvents "a" (.own "h")), .control .garble,
    .perform (.otpsStatus "a" none 0), .perform (.otpsStatus "a" none 0)]
    (start ["a"] Guid.nil {} []) = s at hc ⊢
  have hlink : s.link.connected = true ∧ s.link.epoch = 2 ∧ s.registry.row? "a" = some
      { Row.fresh "a" with
        loaded := true, openedOn := 2, shared := false, callback := some (.own "h") } := by
    rw [← hs]
    decide +kernel
  obtain ⟨hconnected, hepoch, hrow⟩ := hlink
  exact ⟨hconnected, hrow, rfl, hepoch.symm, hepoch, hc _ hconnected hrow rfl hepoch.symm⟩

/-! ## Success -/

/-- The device has an exclusive session with the app. -/
def Exclusive (app : String) (s : Service Attended) : Prop :=
  s.link.transport.device.sessions.get? app = some false

/-- The device has an exclusive session with the app, whose events are subscribed to. -/
def Live (app : String) (s : Service Attended) : Prop :=
  Exclusive app s ∧ s.link.transport.device.isSubscribed app = true

theorem live_of_seat (h : t.link.transport.device.seat app = .live) :
    Live app (s.settled app t) :=
  ⟨congrArg Seat.session h, congrArg Seat.subscribed h⟩

/-- Whoever gets through with binding a handler has a live session. -/
theorem ends_bindHandler_live (ht : t.row.app = app) (hs : t.link.Sane) {α : Type}
    {x : OnRow Attended α} (hx : ∀ t, Ends x t fun _ t' => t'.link = t.link) :
    Ends (do
      makeExclusive
      ensureLoaded
      subscribe
      x) t fun r t' => ∀ a, r = .ok a → t'.link.transport.device.seat app = .live := by
  rw [ends_bind]
  refine (ends_makeExclusive (o := .version) ht).mono fun r t₁ ⟨h₁, _⟩ => ?_
  cases r with
  | error e => exact nofun
  | ok _ =>
    have ht₁ := (Course.row_app h₁).trans ht
    have hs₁ := Course.sane h₁ ht hs
    rw [andThen_ok, ends_bind]
    refine (ends_ensureLoaded (o := .version) ht₁).mono fun r t₂ ⟨h₂, _⟩ => ?_
    cases r with
    | error e => exact nofun
    | ok _ =>
      have ht₂ := (Course.row_app h₂).trans ht₁
      have hs₂ := Course.sane h₂ ht₁ hs₁
      rw [andThen_ok, ends_bind, subscribe, ends_bind, ends_get, andThen_ok, ht₂]
      refine insists_asDone.ends (fun _ e => nofun) fun hd => ?_
      have hsub := standing_after app hs₂ (.subscribe app)
      rw [hd] at hsub
      have hlast : Ends x (t₂.after (.subscribe app)) fun r t' =>
          ∀ a, r = .ok a → t'.link.transport.device.seat app = .live := by
        refine (hx _).mono fun r t' hlink a _ => ?_
        rw [hlink]
        exact hsub.subscribed.2.2
      exact hlast

theorem ends_changeRow_link (change : Row → Except Status Row) :
    Ends (changeRow change) t fun _ t' => t'.link = t.link := by
  rw [changeRow, ends_bind, ends_get, andThen_ok]
  cases change t.row <;> rfl

/-- Starting an instance with a handler succeeds with a live session only. -/
theorem live_startInstance (hs : Healthy s) (caller : Caller) (h : Handler) :
    Ends (startInstance caller app (some h)) s fun r s' => ∀ a, r = .ok a → Live app s' := by
  refine guards_requireEvents.ends (fun _ => nofun) fun _ =>
    guards_requireInit.ends (fun _ => nofun) fun _ => ends_onRow.mpr ?_
  rw [ends_bind, ends_get, andThen_ok]
  dsimp only
  rw [ends_ite]
  split
  · exact nofun
  rw [ends_bind, ends_get, andThen_ok]
  cases (s.turn app).row.checkBind h with
  | error e => exact nofun
  | ok _ =>
    refine (ends_bindHandler_live (hs.sound.app_rowOrFresh app) hs.sane fun t => ?_).mono
      fun _ _ hlive a ha => live_of_seat (hlive a ha)
    rw [ends_bind]
    refine (ends_changeRow_link _).mono fun r t' hl => ?_
    cases r with
    | error e => exact hl
    | ok _ => exact hl

/-- Binding a handler succeeds with a live session, unless the handler is bound already: then
nothing is done. -/
theorem live_registerEvents (hs : Healthy s) (h : Handler) :
    Ends (registerEvents app h) s fun r s' => r = .ok () →
      (Live app s' ↔ s.registry.callbackFor app ≠ some h ∨ Live app s) := by
  refine guards_requireEvents.ends (fun _ => nofun) fun _ =>
    guards_requireInit.ends (fun _ => nofun) fun _ => ends_onRow.mpr ?_
  have hcallback : (s.turn app).row.callback = s.registry.callbackFor app :=
    s.registry.callback_rowOrFresh app
  rw [ends_bind, ends_get, andThen_ok, ← hcallback]
  cases hb : (s.turn app).row.callback with
  | none =>
    rw [checkBind_of_none hb]
    refine (ends_bindHandler_live (hs.sound.app_rowOrFresh app) hs.sane fun t =>
      ends_changeRow_link _).mono fun _ _ hlive hr => ?_
    exact iff_of_true (live_of_seat (hlive _ hr)) (.inl nofun)
  | some bound =>
    rw [checkBind_of_some hb]
    by_cases hbound : bound = h
    · rw [if_pos hbound]
      intro _
      show Live app s ↔ _
      rw [hbound]
      simp
    · rw [if_neg hbound]
      exact nofun

/-- The answer of an instance stands for an exclusive session exactly if the row was opened on this
connection. -/
theorem exclusive_appInstance (h : Holds Mirrors app s) {row : Row}
    (hrow : s.registry.row? app = some row) :
    Ends (appInstance app) s fun r s' => ∀ a, r = .ok a →
      (Exclusive app s' ↔ row.openedOn = s.link.epoch) := by
  refine guards_requireInit.ends (fun _ => nofun) fun hc => ?_
  have hturn : (s.turn app).row = row := Registry.rowOrFresh_of_row? hrow
  have hm : Mirrors row (s.link.standing app) := hturn ▸ h
  rw [ends_onExisting, if_neg (by simp [hrow]), ends_bind, ends_get, andThen_ok, hturn, ends_ite]
  split
  · exact nofun
  · rename_i hno
    obtain ⟨hl, hsh⟩ : row.loaded = true ∧ row.shared = false := by simpa using hno
    intro a _
    show s.link.transport.device.sessions.get? app = some false ↔ _
    have hsession : s.link.transport.device.sessions.get? app = _ := hm.session hl
    rw [hsession, hsh]
    show (if s.link.connected = true ∧ row.openedOn = s.link.epoch then some false else none) = _
      ↔ _
    split
    · rename_i ho
      exact iff_of_true rfl ho.2
    · rename_i ho
      exact iff_of_false nofun fun he => ho ⟨hc, he⟩

/-- After every run: an instance started with a handler has a live session; so does a handler that
is registered, unless it was bound before, in which case nothing is done; an instance that is
answered has an exclusive session exactly if the row was opened on this connection. The session of a
row that was opened on an earlier one is gone. -/
theorem live_session (apps : List String) (client : Guid) (options : ServiceOptions)
    (agenda : List (List Control)) (ms : List Move) (app : String) :
    let s := run ms (start apps client options agenda)
    (∀ caller h id, ((startInstance caller app (some h)).run s).1 = .ok id →
        Live app ((startInstance caller app (some h)).run s).2) ∧
      (∀ h, ((registerEvents app h).run s).1 = .ok () →
        (Live app ((registerEvents app h).run s).2 ↔
          s.registry.callbackFor app ≠ some h ∨ Live app s)) ∧
      ∀ row, s.registry.row? app = some row →
        (∀ answer, ((appInstance app).run s).1 = .ok answer →
          (Exclusive app ((appInstance app).run s).2 ↔ row.openedOn = s.link.epoch)) ∧
        (row.loaded = true → row.openedOn ≠ s.link.epoch →
          s.link.transport.device.sessions.get? app = none) := by
  intro s
  have hs : Healthy s := (healthy_start apps client options agenda).run ms
  have hm : Holds Mirrors app s := mirrors_run apps client options agenda ms app
  refine ⟨fun caller h => live_startInstance hs caller h, fun h => live_registerEvents hs h,
    fun row hrow => ⟨exclusive_appInstance hm hrow, fun hl ho => ?_⟩⟩
  have hrowm : Mirrors row (s.link.standing app) := by
    rw [Holds, Registry.rowOrFresh_of_row? hrow] at hm
    exact hm
  exact (hrowm.session hl).trans (if_neg fun h => ho h.2)

/-- A handler that is registered again once the connection was lost, and an instance that is asked
for then, are answered well without a session. -/
theorem registerEvents_without_session :
    ∃ s, s = run [.perform .init, .perform (.registerEvents "a" (.own "h")), .control .garble,
        .perform (.otpsStatus "a" none 0)] (start ["a"] Guid.nil {} []) ∧
      ((registerEvents "a" (.own "h")).run s).1 = .ok () ∧
      ¬ Live "a" ((registerEvents "a" (.own "h")).run s).2 ∧
      ((appInstance "a").run s).1 = .ok (1, nonShared) ∧
      ¬ Exclusive "a" ((appInstance "a").run s).2 := by
  refine ⟨_, rfl, ?_⟩
  obtain ⟨_, hregister, hrows⟩ := live_session ["a"] Guid.nil {} [] [.perform .init,
    .perform (.registerEvents "a" (.own "h")), .control .garble, .perform (.otpsStatus "a" none 0)]
    "a"
  generalize hs : run [.perform .init, .perform (.registerEvents "a" (.own "h")), .control .garble,
    .perform (.otpsStatus "a" none 0)] (start ["a"] Guid.nil {} []) = s at hregister hrows ⊢
  have hfacts : ((registerEvents "a" (.own "h")).run s).1.toOption = some () ∧
      ((appInstance "a").run s).1.toOption = some (1, nonShared) ∧ s.link.epoch = 2 ∧
      s.registry.row? "a" = some { Row.fresh "a" with
        loaded := true, openedOn := 1, shared := false, callback := some (.own "h") } := by
    rw [← hs]
    decide +kernel
  obtain ⟨hok, hinstance, hepoch, hrow⟩ := hfacts
  replace hok := eq_ok_of_toOption hok
  replace hinstance := eq_ok_of_toOption hinstance
  obtain ⟨hexclusive, hgone⟩ := hrows _ hrow
  have hstale : (1 : Nat) ≠ s.link.epoch := by
    rw [hepoch]
    decide
  have hnone : ¬ Live "a" s := by
    rintro ⟨hx, _⟩
    exact absurd ((hgone rfl hstale).symm.trans hx) nofun
  refine ⟨hok, fun hlive => ?_, hinstance, fun hx => hstale ((hexclusive _ hinstance).mp hx)⟩
  rcases (hregister _ hok).mp hlive with hb | hlive
  · exact hb (by rw [Registry.callbackFor, hrow]; rfl)
  · exact hnone hlive

end Service

end AppletGateway
