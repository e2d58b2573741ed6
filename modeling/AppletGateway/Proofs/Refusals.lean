import AppletGateway.Proofs.Rejections

/-!
# What is refused at once

An operation is refused before anything is offered to the channel if the link is down or its feature
is disabled, if it lacks data or room for the answer, if the caller gives another handle than the
active one, if another handler is bound or an instance is there already, if the caller has no such
instance, and if the request that comes next does not fit into a frame.

Results:
* `Service.refused_at_once`: an operation that is barred fails, and nothing is changed.
* `Service.rejections_atomic`: whatever fails without an offer changes nothing, and what is barred
  fails that way.
-/

namespace AppletGateway

open Applet (noHandle)
open Packed (pack)

namespace Service

variable {τ : Type} {α β : Type} {app : String} {s : Service (Observed τ)}
  {t : Turn (Observed τ)} {o : Operation}

/-! ## Reasons -/

/-- Why an operation is refused before anything is offered. -/
inductive Barred (s : Service (Observed τ)) (o : Operation) : Prop
  | offline (hno : s.link.connected = false) (hi : o ≠ .init) (hd : o ≠ .deinit)
    (hv : o ≠ .version)
  | disabled (h : o.Disabled s.options)
  | lacking (h : o.Lacking)
  /-- The caller gives a handle that is not the active one. -/
  | handle {app : String} {handle : UInt32} (htarget : target s o = some app)
    (hgiven : o.handle? = some handle)
    (hother : (s.registry.rowOrFresh app).provisioning ≠ some handle)
  /-- A different handler is bound. -/
  | handler {app : String} {handler bound : Handler} (htarget : target s o = some app)
    (hgiven : o.handler? = some handler)
    (hbound : (s.registry.rowOrFresh app).callback = some bound) (hother : bound ≠ handler)
  /-- The app has an instance already. -/
  | available {caller : Caller} {app : String} {handler : Option Handler}
    (ho : o = .startInstance caller app handler)
    (htok : (s.registry.rowOrFresh app).token.isSome)
  /-- The caller has no such instance. -/
  | stranger {caller : Caller} {id : UInt32} (ho : o = .stopInstance caller id)
    (hnot : ∀ app, s.registry.resolve id ≠ some ⟨app, caller.process⟩)
  /-- The request is too large, and no session has to be opened before it is made. -/
  | unfit {app : String} {q : Applet.Request} (htarget : target s o = some app)
    (hq : o.request? = some q) (hunfit : Frame.encode (pack q) = none)
    (hopen : o.opens = true → (s.registry.rowOrFresh app).loaded = true ∧
      (s.registry.rowOrFresh app).openedOn = s.link.epoch)

/-! ## Refusing steps -/

/-- The step fails and changes nothing. -/
def Refusing {σ : Type} (x : Act σ α) (s : σ) : Prop :=
  Ends x s fun r s' => (∃ e, r = .error e) ∧ s' = s

theorem refusing_throw_bind {σ : Type} {s : σ} {e : Status} {f : β → Act σ α} :
    Refusing (throw e >>= f) s := ⟨⟨e, rfl⟩, rfl⟩

theorem refusing_get {σ : Type} {s : σ} {f : σ → Act σ α} (hf : Refusing (f s) s) :
    Refusing (get >>= f) s := by
  unfold Refusing
  rw [ends_bind]
  exact hf

/-- A handle is checked before anything else is done. -/
theorem refusing_expect {handle : UInt32} {f : Unit → OnRow (Observed τ) α}
    (hf : t.row.provisioning = some handle → Refusing (f ()) t) :
    Refusing (ofExcept (t.row.expectProvisioning handle) >>= f) t := by
  unfold Row.expectProvisioning
  split
  · rename_i hactive
    unfold Refusing
    rw [ends_bind]
    exact hf hactive
  · exact refusing_throw_bind

/-- So is whether a different handler is bound. -/
theorem refusing_checkBind {handler bound : Handler} (hbound : t.row.callback = some bound)
    (hother : bound ≠ handler) {f : Bool → OnRow (Observed τ) α} :
    Refusing (ofExcept (t.row.checkBind handler) >>= f) t := by
  rw [checkBind_of_some hbound, if_neg hother]
  exact refusing_throw_bind

theorem refusing_sessionHandle {handle : Option UInt32} {f : UInt32 → OnRow (Observed τ) α}
    (hf : (∀ id, handle = some id → t.row.provisioning = some id) →
      Refusing (f (handle.getD noHandle)) t) : Refusing (sessionHandle handle >>= f) t := by
  cases handle with
  | none =>
    unfold Refusing
    rw [ends_bind]
    exact hf nofun
  | some id =>
    rw [sessionHandle, bind_assoc]
    refine refusing_get ?_
    rw [bind_assoc]
    refine refusing_expect fun hactive => ?_
    rw [pure_bind]
    exact hf fun _ hid => Option.some.inj hid ▸ hactive

variable [Transport τ]

/-- A session that is open need not be opened. -/
theorem refusing_ensureLoaded {f : Unit → OnRow (Observed τ) α} (hl : t.row.loaded = true)
    (hepoch : t.row.openedOn = t.link.epoch) (hf : Refusing (f ()) t) :
    Refusing (ensureLoaded >>= f) t := by
  unfold Refusing
  rw [ends_bind, ensureLoaded, ends_bind, ends_dropStale_eq, if_neg fun h => h.2 hepoch, andThen_ok,
    ends_bind, ends_get, andThen_ok, if_pos hl]
  exact hf

/-- A request that does not fit into a frame is not made. -/
theorem refusing_call {q : Applet.Request} (hq : Frame.encode (pack q) = none)
    {f : Applet.Reply → OnRow (Observed τ) α} : Refusing (call q >>= f) t := by
  have hfails : Ends (call q) t fun r t' => (∃ e, r = .error e) ∧ t' = t := by
    obtain ⟨e, he⟩ := (Link.exchange_of_unfit (l := t.link) hq).1
    exact ⟨⟨e.status, congrArg (Except.mapError LinkError.status) he⟩, after_of_unfit hq⟩
  unfold Refusing
  rw [ends_bind]
  refine hfails.mono fun r t' hend => ?_
  obtain ⟨⟨e, rfl⟩, rfl⟩ := hend
  exact ⟨⟨e, rfl⟩, rfl⟩

/-! ## The operations -/

omit [Transport τ] in
/-- Neither connecting and tearing down nor asking for the version is ever barred. -/
theorem Barred.on_app (hb : Barred s o) : o ≠ .init ∧ o ≠ .deinit ∧ o ≠ .version := by
  cases hb with
  | offline _ hi hd hv => exact ⟨hi, hd, hv⟩
  | disabled h => refine ⟨?_, ?_, ?_⟩ <;> rintro rfl <;> exact h
  | lacking h => refine ⟨?_, ?_, ?_⟩ <;> rintro rfl <;> exact h
  | handle htarget | handler htarget | unfit htarget =>
    refine ⟨?_, ?_, ?_⟩ <;> rintro rfl <;> cases htarget
  | available ho | stranger ho =>
    subst ho
    exact ⟨nofun, nofun, nofun⟩

/-- Why a request is refused once the checks in front of it are passed: the caller gives another
handle than the active one, or it is too large and no session has to be opened for it. -/
inductive Hindered (handle : Option UInt32) (opens : Bool) (q : Applet.Request)
    (t : Turn (Observed τ)) : Prop
  | handle {given : UInt32} (hgiven : handle = some given)
    (hother : t.row.provisioning ≠ some given)
  | unfit (hunfit : Frame.encode (pack q) = none)
    (hopen : opens = true → t.row.loaded = true ∧ t.row.openedOn = t.link.epoch)

omit [Transport τ] in
theorem Barred.request {q : Applet.Request} (hb : Barred s o) (ha : Admitted s o app)
    (hq : o.request? = some q) : Hindered o.handle? o.opens q (s.turn app) := by
  cases hb with
  | offline hno => cases hno.symm.trans ha.connected
  | disabled h => exact absurd h ha.enabled
  | lacking h => exact absurd h ha.provided
  | handle htarget hgiven hother =>
    obtain rfl := Option.some.inj (htarget.symm.trans ha.target)
    exact .handle hgiven hother
  | handler _ hgiven =>
    cases o with
    | registerEvents | startInstance => cases hq
    | _ => cases hgiven
  | available ho =>
    subst ho
    cases hq
  | stranger ho =>
    subst ho
    cases hq
  | unfit htarget hq' hunfit hopen =>
    obtain rfl := Option.some.inj (htarget.symm.trans ha.target)
    obtain rfl := Option.some.inj (hq'.symm.trans hq)
    exact .unfit hunfit hopen

omit [Transport τ] in
/-- What is left to refuse an operation with that is there to make no request. -/
theorem Barred.check (hb : Barred s o) (ha : Admitted s o app) (hq : o.request? = none) :
    (∃ handler bound, o.handler? = some handler ∧ (s.turn app).row.callback = some bound ∧
        bound ≠ handler) ∨
      ∃ caller handler, o = .startInstance caller app handler ∧
        (s.turn app).row.token.isSome := by
  cases hb with
  | offline hno => cases hno.symm.trans ha.connected
  | disabled h => exact absurd h ha.enabled
  | lacking h => exact absurd h ha.provided
  | handle _ hgiven =>
    cases o with
    | endProvisioning | sendData | receiveData | sendAndReceive | getOtp | otpsStatus => cases hq
    | _ => cases hgiven
  | handler htarget hgiven hbound hother =>
    obtain rfl := Option.some.inj (htarget.symm.trans ha.target)
    exact .inl ⟨_, _, hgiven, hbound, hother⟩
  | available ho htok =>
    subst ho
    cases ha.target
    exact .inr ⟨_, _, rfl, htok⟩
  | stranger ho hnot => exact absurd (ha.own _ _ ho) (hnot app)
  | unfit _ hq' => cases hq'.symm.trans hq

/-- A request over a session with a handle of the caller's. -/
theorem refusing_session {handle : Option UInt32} {q : UInt32 → Applet.Request}
    {f : Applet.Reply → OnRow (Observed τ) α}
    (hr : Hindered handle true (q (handle.getD noHandle)) t) : Refusing (do
      let handle ← sessionHandle handle
      ensureLoaded
      let reply ← call (q handle)
      f reply) t := by
  refine refusing_sessionHandle fun hactive => ?_
  cases hr with
  | handle hgiven hother => exact absurd (hactive _ hgiven) hother
  | unfit hunfit hopen =>
    exact refusing_ensureLoaded (hopen rfl).1 (hopen rfl).2 (refusing_call hunfit)

/-- An app whose name is too long to uninstall it has no row, so there is nothing to close. -/
theorem refusing_uninstall (hs : s.registry.Sound) (h : Tidy s)
    (hunfit : Frame.encode (pack (Applet.Request.uninstall app)) = none) : Refusing (do
      unsubscribeQuietly
      closeQuietly
      ofExcept (← call (.uninstall app)).asDone
      modifyRow Row.retire) (s.turn app) := by
  have hpack : pack (Applet.Request.uninstall app) = Packed.packTag 3 ++ pack app := rfl
  have hvacant : (s.turn app).row.isVacant = true :=
    Bool.of_not_eq_false fun hv => ((h.fit_turn hs app).askable hv).fits hpack rfl hunfit
  obtain ⟨hl, _, hcallback, _⟩ := Row.isVacant_iff.mp hvacant
  unfold Refusing
  rw [ends_bind, ends_unsubscribeQuietly_eq, hcallback, if_neg (by decide), andThen_ok, ends_bind,
    ends_closeQuietly_eq, hl, if_neg (by decide), andThen_ok]
  exact refusing_call hunfit

/-- The task of an operation that is barred fails, and changes nothing. -/
theorem Task.refusing {x : OnRow (Observed τ) o.Answer} (hx : Task o app x)
    (hs : s.registry.Sound) (h : Tidy s) (hb : Barred s o) (ha : Admitted s o app) :
    Refusing x (s.turn app) := by
  cases hx with
  | inquiry hi =>
    have hr := hb.request ha hi.request?
    rw [hi.handle?, hi.opens] at hr
    exact refusing_session hr
  | startProvisioning =>
    refine refusing_get (ends_reject ⟨⟨_, rfl⟩, rfl⟩ fun _ => ?_)
    cases hb.request ha rfl with
    | handle hgiven => cases hgiven
    | unfit hunfit hopen =>
      exact refusing_ensureLoaded (hopen rfl).1 (hopen rfl).2 (refusing_call hunfit)
  | endProvisioning =>
    refine refusing_get (refusing_expect fun hactive => ?_)
    cases hb.request ha rfl with
    | handle hgiven hother =>
      obtain rfl := Option.some.inj hgiven
      exact absurd hactive hother
    | unfit hunfit => exact refusing_call hunfit
  | install =>
    cases hb.request ha rfl with
    | handle hgiven => cases hgiven
    | unfit hunfit => exact refusing_call hunfit
  | uninstall =>
    cases hb.request ha rfl with
    | handle hgiven => cases hgiven
    | unfit hunfit => exact refusing_uninstall hs h hunfit
  | appInstance | unregisterEvents | stopInstance =>
    obtain ⟨_, _, hgiven, _⟩ | ⟨_, _, ho, _⟩ := hb.check ha rfl
    · cases hgiven
    · cases ho
  | registerEvents =>
    obtain ⟨_, _, hgiven, hbound, hother⟩ | ⟨_, _, ho, _⟩ := hb.check ha rfl
    · obtain rfl := Option.some.inj hgiven
      exact refusing_get (refusing_checkBind hbound hother)
    · cases ho
  | startInstance =>
    obtain ⟨_, _, hgiven, _⟩ | ⟨_, _, _, htok⟩ := hb.check ha rfl
    · cases hgiven
    · exact refusing_get (ends_reject ⟨⟨_, rfl⟩, rfl⟩ fun hno => absurd htok hno)
  | startListening =>
    refine refusing_get (ends_reject ⟨⟨_, rfl⟩, rfl⟩ fun hno => ?_)
    obtain ⟨_, _, hgiven, hbound, hother⟩ | ⟨_, _, _, htok⟩ := hb.check ha rfl
    · obtain rfl := Option.some.inj hgiven
      exact refusing_get (refusing_checkBind hbound hother)
    · exact absurd htok hno

/-- An operation that is barred fails, and nothing is changed. -/
theorem refused_at_once (hs : s.registry.Sound) (h : Tidy s) (hb : Barred s o) :
    Refusing (perform o) s := by
  obtain ⟨hi, hd, hv⟩ := hb.on_app
  refine ends_perform_of_tasks hi hd (fun e _ => ⟨⟨e, rfl⟩, rfl⟩) (fun a hidle => ?_)
    fun app x ha hx => ?_
  · obtain rfl | ⟨app, rfl, hc, _⟩ := hidle
    · exact absurd rfl hv
    · have ha : Admitted s (.unregisterEvents app) app := ⟨hc, id, id, rfl, nofun⟩
      obtain ⟨_, _, hgiven, _⟩ | ⟨_, _, ho, _⟩ := hb.check ha rfl
      · cases hgiven
      · cases ho
  · refine (hx.refusing hs h hb ha).mono fun r t ht => ?_
    obtain ⟨hr, rfl⟩ := ht
    exact ⟨hr, h.settled_turn hs app⟩

/-! ## All rejections -/

/-- In any state that can be reached, over any channel: an operation that fails and has not offered
a byte to the channel leaves the rows, the tokens and the link as they were. Only connecting can
have called the channel then; after any other operation all is as before. Whatever is barred fails
that way. -/
theorem rejections_atomic (h : Reached s) (o : Operation) :
    (Ends (perform o) s fun r s' =>
      ∀ e, r = .error e → s'.link.transport.offered = s.link.transport.offered →
        s' = { s with link := { s.link with transport := s'.link.transport } } ∧
        (o ≠ .init → s' = s)) ∧
    (Barred s o → Refusing (perform o) s) := by
  obtain ⟨hs, htidy⟩ := h.tidy
  refine ⟨?_, refused_at_once hs htidy⟩
  by_cases hi : o = .init
  · subst hi
    exact (ends_init_spared htidy).mono fun _ _ h e he _ => ⟨h.2 e he, fun hno => absurd rfl hno⟩
  have hspared : Ends (perform o) s (Spared s) := by
    by_cases hd : o = .deinit
    · subst hd
      exact ends_deinit_spared htidy
    · exact spared_perform hs htidy hi hd
  refine hspared.mono fun r s' h e he hoffered => ?_
  obtain rfl := h.unchanged e he hoffered
  exact ⟨rfl, fun _ => rfl⟩

/-- Over the channel to the simulated co-processor: a second handler for the events of an app is
refused before anything is offered, and the first one stays bound. -/
theorem second_handler_refused : ∃ s : Service (Observed Attended), Reached s ∧
    Barred s (.registerEvents "clock" (.own "second")) ∧
    (∃ e, ((registerEvents "clock" (.own "second")).run s).1 = .error e) ∧
    ((registerEvents "clock" (.own "second")).run s).2.link.transport.offered =
      s.link.transport.offered ∧
    ((registerEvents "clock" (.own "second")).run s).2 = s := by
  have hreached := ((Reached.start Guid.nil (start ["clock"] Guid.nil {} []).link.transport
    {}).perform .init).perform (.registerEvents "clock" (.own "first"))
  generalize hs : ((perform (.registerEvents "clock" (.own "first"))).run ((perform .init).run
    (new (Link.unused Guid.nil (start ["clock"] Guid.nil {} []).link.transport) {})).2).2 = s
    at hreached
  have hfacts : (s.registry.rowOrFresh "clock").callback = some (.own "first") ∧
      ((registerEvents "clock" (.own "second")).run s).2.link.transport.offered =
        s.link.transport.offered := by
    rw [← hs]
    decide +kernel
  obtain ⟨hbound, hoffered⟩ := hfacts
  have hbarred : Barred s (.registerEvents "clock" (.own "second")) :=
    .handler rfl rfl hbound (by decide)
  obtain ⟨hatomic, hrefused⟩ :=
    rejections_atomic hreached (.registerEvents "clock" (.own "second"))
  obtain ⟨⟨e, he⟩, _⟩ := hrefused hbarred
  exact ⟨s, hreached, hbarred, ⟨e, he⟩, hoffered, (hatomic e he hoffered).2 nofun⟩

end Service

end AppletGateway
