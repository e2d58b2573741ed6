import AppletGateway.Proofs.Agreement

/-!
# A stranded handle

An operation that strands the handle of an app (`Service.Strands`) goes wrong for certain if nothing
else happens: the device closes the session and drops the handle, and the row that stays still
records it, on a session that is either not open or newly opened.

Results:
* `Service.provisioning_agreement`: registry and device agree on the provisioning of an app after
  every run that strands none of its handles, whatever goes wrong on the way, and after an
  undisturbed operation that strands one they do not.
-/

namespace AppletGateway

open Applet (Inbound)
open Packed (pack)

/-! ## Exchanges that nothing disturbs -/

theorem Varint.length_write (digits n : Nat) : (write digits n).length ≤ digits := by
  induction digits generalizing n with
  | zero => exact Nat.le_refl 0
  | succ digits ih =>
    unfold write
    split
    · simp
    · simpa using ih (n / 128)

/-- A reply without data. -/
def Applet.Reply.Brief (r : Applet.Reply) : Prop := r = .done ∨ ∃ code, r = .failed code

/-- A reply without data fits into a frame. -/
theorem Applet.Reply.Brief.fits {r : Applet.Reply} (h : r.Brief) :
    (Frame.encode (pack (Inbound.reply r))).isSome := by
  rw [Frame.encode_isSome_iff]
  rcases h with rfl | ⟨code, rfl⟩
  · exact ⟨by decide, by decide⟩
  · have hlen : (pack (Inbound.reply (.failed code))).length =
        2 + (Varint.write 5 code.toNat).length := by
      show (Packed.packTag 0 ++ (Packed.packTag 6 ++ Varint.write 5 code.toNat)).length = _
      rw [List.length_append, List.length_append, ← Nat.add_assoc]
      rfl
    have hcode := Varint.length_write 5 code.toNat
    simp only [Frame.maxPayload, hlen]
    omega

/-- No fault is set up at the device, and the operator has no plans. -/
structure Attended.Calm (a : Attended) : Prop where
  agenda : a.agenda = []
  offline : a.device.offline = false
  refuseNext : a.device.refuseNext = none
  garbleNext : a.device.garbleNext = false

namespace Device

variable {d : Device}

/-- A request about a session, without data in its reply. -/
def Sessional : Applet.Request → Prop
  | .openSession .. | .closeSession _ | .subscribe _ => True
  | _ => False

theorem brief_handle {q : Applet.Request} (hq : Sessional q) : (d.handle q).1.Brief := by
  refine handle_cases (P := fun r _ => r.Brief) q (fun code _ => .inr ⟨code, rfl⟩) fun _ => ?_
  cases q with
  | openSession app shared =>
    simp only [answer, ends_bind, ends_get, andThen_ok, ends_ite]
    split
    · exact .inr ⟨_, rfl⟩
    · exact .inl rfl
  | closeSession app => exact .inl rfl
  | subscribe app =>
    simp only [answer, ends_bind, ends_requireOpen]
    split
    · simp only [andThen_ok, ends_ite]
      split
      · exact .inr ⟨_, rfl⟩
      · exact .inl rfl
    · exact .inr ⟨_, rfl⟩
  | _ => cases hq

/-- Closing a session drops the handles of its app, unless it is refused. -/
theorem get?_handle_closeSession (hr : d.refuseNext = none) (app : String) (a : UInt32)
    (token : Bytes) :
    (d.handle (.closeSession app)).2.provisioning.get? a ≠ some (app, token) := by
  have hrun : (d.handle (.closeSession app)).2.provisioning =
      d.provisioning.filter fun _ p => p.1 ≠ app := by
    simp only [handle, hr]
    rfl
  rw [hrun, Table.get?_filter]
  intro h
  have hother := (Option.filter_eq_some_iff.mp h).2
  simp at hother

end Device

namespace Link

variable {l l' : Link Attended}

/-- A link that is connected and quiet, with nothing that could disturb it. -/
structure Undisturbed (l : Link Attended) : Prop where
  quiet : Quiet l
  connected : l.connected = true
  calm : l.transport.Calm

/-- An exchange that nothing disturbs fails only if the request does not fit into a frame. -/
theorem Exchanged.undisturbed {q : Applet.Request} {r : Except LinkError Applet.Reply}
    (hx : Exchanged l q r l')
    (h : Undisturbed l) (hbrief : (l.transport.device.handle q).1.Brief) :
    (r = .error .encode ∧ l' = l ∧ Frame.encode (pack q) = none) ∨
      (r = .ok (l.transport.device.handle q).1 ∧ Undisturbed l' ∧ l'.epoch = l.epoch ∧
        l'.transport.device.provisioning = (l.transport.device.handle q).2.provisioning) := by
  obtain ⟨hoff, hrefuse, hgarble, _⟩ := Device.settings_handle l.transport.device q
  cases hx with
  | down hc => exact absurd (hc.symm.trans h.connected) nofun
  | unsent _ hq => exact .inl ⟨rfl, rfl, hq⟩
  | served hc hb quiet hc' epoch agenda device =>
    obtain rfl := hb.eq_of_idle h.calm.agenda
    refine .inr ⟨rfl, ⟨quiet, hc', ⟨agenda.trans h.calm.agenda, ?_, ?_, ?_⟩⟩, epoch, ?_⟩
    · rw [device]
      exact hoff.trans h.calm.offline
    · rw [device]
      exact hrefuse
    · rw [device]
    · rw [device]
  | lost hc he hb fault hd _ =>
    obtain rfl := hb.eq_of_idle h.calm.agenda
    rcases fault with hf | hf | hf
    · exact absurd (h.calm.offline.symm.trans hf) nofun
    · exact absurd ((hgarble.trans h.calm.garbleNext).symm.trans hf) nofun
    · have := hbrief.fits
      rw [hf] at this
      cases this

/-- Opening a session anew after it has been closed: it fails, or the device is left without the
handle. -/
theorem ends_reopen {app : String} {a : UInt32} (h : Undisturbed l)
    (hclosed : Frame.encode (pack (Applet.Request.closeSession app)) = none ∨
      ∀ token, l.transport.device.provisioning.get? a ≠ some (app, token)) (shared : Bool) :
    Ends (exchange (.openSession app shared)) l fun r l' => Undisturbed l' ∧ l'.epoch = l.epoch ∧
      ((∃ e, r = .error e) ∨
        ∀ token, l'.transport.device.provisioning.get? a ≠ some (app, token)) := by
  have hx := ends_exchange h.quiet (.openSession app shared)
  have hopen : Ends (exchange (.openSession app shared)) l fun r _ =>
      Frame.encode (pack (Applet.Request.closeSession app)) = none → ∃ e, r = .error e := by
    intro hunfit
    refine ends_exchange_of_unfit (Frame.encode_eq_none_of_le hunfit ?_ ?_)
    · nofun
    · show (Packed.packTag 1 ++ pack app).length ≤
        (Packed.packTag 0 ++ pack app ++ pack shared).length
      simp only [List.length_append]
      have : (Packed.packTag 1).length = (Packed.packTag 0).length := rfl
      omega
  refine (hx.and hopen).mono fun r l' ⟨hx, hunfit⟩ => ?_
  rcases hx.undisturbed h (Device.brief_handle trivial) with ⟨rfl, rfl, _⟩ | ⟨rfl, hund, he, hdev⟩
  · exact ⟨h, rfl, .inl ⟨_, rfl⟩⟩
  · refine ⟨hund, he, ?_⟩
    rcases hclosed with hclosed | hgone
    · exact .inl (hunfit hclosed)
    · rw [Device.provisioning_handle rfl] at hdev
      rw [hdev]
      exact .inr hgone

end Link

namespace Service

open Link (Exchanged Undisturbed)

variable {app : String} {a : UInt32} {s : Service Attended} {t t' : Turn Attended} {α : Type}

/-! ## A row that records a handle of no use -/

/-- The row records the handle `a` on a session that is not open, or open without this handle on the
device; and nothing disturbs the link. -/
structure Stranded (app : String) (a : UInt32) (t : Turn Attended) : Prop where
  own_name : t.row.app = app
  staying : t.row.retiring = false
  recorded : t.row.provisioning = some a
  undisturbed : Undisturbed t.link
  gone : t.row.loaded = true → t.row.openedOn = t.link.epoch ∧
    ∀ token, t.link.transport.device.provisioning.get? a ≠ some (app, token)

theorem Stranded.sameSession (h : Stranded app a t) (hl : t'.link = t.link)
    (hr : t.row.SameSession t'.row) : Stranded app a t' := by
  obtain ⟨row, tokens, link⟩ := t'
  obtain rfl : link = t.link := hl
  refine ⟨hr.app.trans h.own_name, hr.retiring.trans h.staying,
    hr.provisioning.trans h.recorded, h.undisturbed, fun hl => ?_⟩
  obtain ⟨ho, hgone⟩ := h.gone (hr.loaded.symm.trans hl)
  exact ⟨hr.openedOn.trans ho, hgone⟩

theorem keeps_subscribe_stranded : Keeps (Stranded app a) subscribe := by
  refine keeps_get fun t h => ?_
  have hcall : Ends (call (.subscribe t.row.app)) t fun _ t' => Stranded app a t' := by
    have hx := Link.ends_exchange h.undisturbed.quiet (.subscribe t.row.app)
    rcases hx.undisturbed h.undisturbed (Device.brief_handle trivial) with
      ⟨_, hl, _⟩ | ⟨_, hund, hepoch, hdev⟩
    · exact h.sameSession hl ⟨rfl, rfl, rfl, rfl, rfl⟩
    · rw [Device.provisioning_handle rfl] at hdev
      refine ⟨h.own_name, h.staying, h.recorded, hund, fun hl => ?_⟩
      obtain ⟨ho, hgone⟩ := h.gone hl
      refine ⟨ho.trans hepoch.symm, fun token hget => hgone token ?_⟩
      rw [← hdev]
      exact hget
  rw [ends_bind]
  refine hcall.mono fun r t' h' => ?_
  cases r with
  | error e => exact h'
  | ok reply => exact keeps_ofExcept reply.asDone t' h'

/-- The handle of a row whose session has been closed stays stranded when the session is opened
anew. -/
theorem Stranded.ends_ensureLoaded (h : Stranded app a t) (hl : t.row.loaded = false)
    (hclosed : Frame.encode (pack (Applet.Request.closeSession app)) = none ∨
      ∀ token, t.link.transport.device.provisioning.get? a ≠ some (app, token)) :
    Ends ensureLoaded t fun _ t' => Stranded app a t' := by
  simp only [ensureLoaded, dropStale, ends_bind, ends_get, andThen_ok, ends_pure, hl,
    Bool.false_eq_true, false_and, if_false, ends_call]
  refine (Link.ends_reopen h.undisturbed (h.own_name ▸ hclosed) t.row.shared).mono fun r l => ?_
  rintro ⟨hund, hepoch, hgone⟩
  have hunopened : Stranded app a { t with link := l } :=
    ⟨h.own_name, h.staying, h.recorded, hund,
      fun hl' => absurd (hl.symm.trans hl') Bool.false_ne_true⟩
  cases r with
  | error e => exact hunopened
  | ok reply =>
    rw [andThen_mapError_ok, ends_bind]
    cases reply.asDone with
    | error e => exact hunopened
    | ok _ =>
      have hopened : Stranded app a { t with
          row := { t.row with loaded := true, openedOn := t.link.epoch }, link := l } :=
        ⟨h.own_name, h.staying, h.recorded, hund,
          fun _ => ⟨hepoch.symm, h.own_name ▸ hgone.resolve_left (by simp)⟩⟩
      simp only [ofExcept, ends_pure, andThen_ok, ends_bind, modifyRow, ends_modify]
      split
      · exact keeps_subscribe_stranded _ hopened
      · exact hopened

/-- Making a shared session with a handle exclusive strands the handle, and what follows leaves it
so. -/
theorem ends_strand (happ : t.row.app = app) (hr : t.row.retiring = false)
    (hp : t.row.provisioning = some a) (hl : t.row.loaded = true) (hs : t.row.shared = true)
    (h : Undisturbed t.link) {x : OnRow Attended α} (hx : Keeps (Stranded app a) x) :
    Ends (do
      makeExclusive
      ensureLoaded
      x) t fun _ t' => Stranded app a t' := by
  have hboth : t.row.loaded = true ∧ t.row.shared = true := ⟨hl, hs⟩
  simp only [makeExclusive, closeQuietly, modifyRow, ends_bind, ends_get, andThen_ok, if_pos hboth,
    if_pos hl, ends_callQuietly, ends_modify]
  have hclose : Ends (Link.exchange (.closeSession t.row.app)) t.link fun _ l => Undisturbed l ∧
      (Frame.encode (pack (Applet.Request.closeSession app)) = none ∨
        ∀ token, l.transport.device.provisioning.get? a ≠ some (app, token)) := by
    rw [happ]
    refine (Link.ends_exchange h.quiet _).mono fun r l hx => ?_
    rcases hx.undisturbed h (Device.brief_handle trivial) with
      ⟨_, rfl, hunfit⟩ | ⟨_, hund, _, hdev⟩
    · exact ⟨h, .inl hunfit⟩
    · refine ⟨hund, .inr fun token => ?_⟩
      rw [hdev]
      exact Device.get?_handle_closeSession h.calm.refuseNext app a token
  obtain ⟨hund, hclosed⟩ := hclose
  have hstranded : Stranded app a { t with
      row := { t.row with loaded := false, shared := false },
      link := ((Link.exchange (.closeSession t.row.app)).run t.link).2 } :=
    ⟨happ, hr, hp, hund, fun hl' => absurd hl' Bool.false_ne_true⟩
  refine (hstranded.ends_ensureLoaded rfl hclosed).mono fun r t' h' => ?_
  cases r with
  | error e => exact h'
  | ok _ => exact hx t' h'

/-! ## Disagreement -/

/-- The registry and the device agree on the provisioning of an app: if its session is not open, its
row records no handle, and if it is open on the current connection, the device has the handle for
the app. -/
structure AgreesOn (app : String) (s : Service Attended) : Prop where
  unloaded : ∀ row, s.registry.row? app = some row → row.loaded = false → row.provisioning = none
  recorded : ∀ row, s.registry.row? app = some row → s.link.connected = true →
    row.loaded = true → row.openedOn = s.link.epoch → ∀ a, row.provisioning = some a →
      ∃ token, s.link.transport.device.provisioning.get? a = some (row.app, token)

theorem Tracks.agreesOn (h : Tracks app s) (hu : s.link.transport.device.Unwrapped) :
    AgreesOn app s := by
  have hrow {row : Row} (hr : s.registry.row? app = some row) : (s.turn app).row = row := by
    show (s.registry.row? app).getD _ = row
    rw [hr]
    rfl
  refine ⟨fun row hr hl => ?_, fun row hr hc hl ho a ha => ?_⟩
  · rw [← hrow hr] at hl ⊢
    exact Agrees.unloaded h hl
  · rw [← hrow hr] at hl ho ha ⊢
    rw [Agrees.own_name h]
    exact Agrees.recorded h hu hc hl ho a ha

/-- A turn that leaves the row with a handle and without a session leaves a disagreement. -/
theorem not_agreesOn_of_unloaded (hr : t.row.retiring = false) (hp : t.row.provisioning = some a)
    (hl : t.row.loaded = false) : ¬ AgreesOn app (s.settled app t) := by
  intro h
  have hrow : (s.settled app t).registry.row? app = some t.row := by
    refine (Registry.row?_settle _ _ _).trans (if_neg ?_)
    simp [Row.isVacant, hr, hp]
  have := h.unloaded t.row hrow hl
  rw [hp] at this
  cases this

theorem Stranded.not_agreesOn (h : Stranded app a t) : ¬ AgreesOn app (s.settled app t) := by
  cases hl : t.row.loaded with
  | false => exact not_agreesOn_of_unloaded h.staying h.recorded hl
  | true =>
    intro hagrees
    obtain ⟨ho, hgone⟩ := h.gone hl
    have hrow : (s.settled app t).registry.row? app = some t.row := by
      refine (Registry.row?_settle _ _ _).trans (if_neg ?_)
      simp [Row.isVacant, h.staying, h.recorded]
    obtain ⟨token, htoken⟩ :=
      hagrees.recorded t.row hrow h.undisturbed.connected hl ho a h.recorded
    rw [h.own_name] at htoken
    exact hgone token htoken

/-- Uninstalling an app with an open session and a handle leaves a disagreement if it fails. -/
theorem not_agreesOn_uninstall (hs : Healthy s) (hn : Strands app s (.uninstall app)) :
    ¬ AgreesOn app (move (.perform (.uninstall app)) s) := by
  obtain ⟨_, hi, hc, _, hp, hfail⟩ := hn
  obtain ⟨a, hp⟩ := Option.ne_none_iff_exists'.mp hp
  have hrun : Ends (uninstall app) s fun r s' => r ≠ .ok () → ¬ AgreesOn app s' := by
    refine guards_requireInstall.pass hi (guards_requireInit.pass hc ?_)
    have hrow : Ends (do
        unsubscribeQuietly
        closeQuietly
        ofExcept (← call (.uninstall app)).asDone
        modifyRow Row.retire) (s.turn app) fun r t =>
          r ≠ .ok () → t.row = { (s.turn app).row with loaded := false } := by
      -- The session is closed before the request whose failure is at issue.
      simp only [ends_bind]
      refine ends_unsubscribeQuietly.mono fun r t₁ ⟨hr, hrow₁⟩ => ?_
      subst hr
      simp only [andThen_ok, ends_bind]
      refine ends_closeQuietly.mono fun r t₂ ⟨hr, hrow₂⟩ => ?_
      subst hr
      rw [hrow₁] at hrow₂
      simp only [andThen_ok, ends_bind, ends_call]
      refine Ends.mono (Q := fun _ _ => True) trivial fun r l _ => ?_
      cases r with
      | error e => exact fun _ => hrow₂
      | ok reply =>
        rw [andThen_mapError_ok, ends_bind]
        cases reply.asDone with
        | error e => exact fun _ => hrow₂
        | ok _ => exact fun hr => absurd rfl hr
    refine ends_onRow.mpr (hrow.mono fun r t h hr => not_agreesOn_of_unloaded (a := a) ?_ ?_ ?_)
    · rw [h hr]
      exact hs.sound.staying_rowOrFresh app
    · rw [h hr]
      exact hp
    · rw [h hr]
  exact hrun hfail

/-- An operation that strands a handle leaves a disagreement if nothing disturbs it. -/
theorem not_agreesOn_of_strands (hs : Healthy s) {o : Operation} (hn : Strands app s o)
    (hcalm : s.link.transport.Calm ∨ ∃ other, o = .uninstall other) :
    ¬ AgreesOn app (move (.perform o) s) := by
  have hund (hc : s.link.connected = true) (ho : ∀ other, o ≠ .uninstall other) :
      Undisturbed (s.turn app).link :=
    ⟨hs.sane.quiet, hc, hcalm.resolve_right (not_exists.mpr ho)⟩
  have happ := hs.sound.app_rowOrFresh app
  have hstay := hs.sound.staying_rowOrFresh app
  cases o with
  | uninstall other =>
    obtain rfl := hn.1
    exact not_agreesOn_uninstall hs hn
  | registerEvents other handler =>
    obtain ⟨rfl, he, hc, hl, hsh, hp, hb⟩ := hn
    obtain ⟨a, hp⟩ := Option.ne_none_iff_exists'.mp hp
    have hbind := ends_strand happ hstay hp hl hsh (hund hc fun _ => by simp)
      (keeps_subscribe_stranded.bind fun _ => keeps_bind Stranded.sameSession handler)
    have hrun : Ends (registerEvents other handler) s fun _ s' => ¬ AgreesOn other s' := by
      refine guards_requireEvents.pass he (guards_requireInit.pass hc ?_)
      refine ends_onRow.mpr ?_
      have hb : (s.turn other).row.checkBind handler = .ok false := hb
      simp only [ends_bind, ends_get, andThen_ok]
      rw [hb]
      simp only [ofExcept, ends_pure, andThen_ok]
      exact hbind.mono fun _ _ h => h.not_agreesOn
    exact hrun
  | startInstance caller other handler =>
    cases handler with
    | none => cases hn
    | some handler =>
      obtain ⟨rfl, he, hc, hl, hsh, hp, htok, bound, hb⟩ := hn
      obtain ⟨a, hp⟩ := Option.ne_none_iff_exists'.mp hp
      have hbind := ends_strand happ hstay hp hl hsh (hund hc fun _ => by simp)
        (keeps_subscribe_stranded.bind fun _ => (keeps_bind Stranded.sameSession handler).bind
          fun _ => keeps_issueToken Stranded.sameSession caller.process)
      have hrun : Ends (startInstance caller other (some handler)) s
          fun _ s' => ¬ AgreesOn other s' := by
        refine guards_requireEvents.pass he (guards_requireInit.pass hc ?_)
        refine ends_onRow.mpr ?_
        have hb : (s.turn other).row.checkBind handler = .ok bound := hb
        have htok : (s.turn other).row.token = none := htok
        simp only [ends_bind, ends_get, andThen_ok, ends_ite]
        rw [htok, hb]
        simp only [Option.isSome_none, Bool.false_eq_true, if_false, ends_bind, andThen_ok,
          ofExcept, ends_pure]
        exact (ends_bind _ _).mp (hbind.mono fun _ _ h => h.not_agreesOn)
      exact hrun
  | _ => cases hn

/-- After every run that strands no handle of an app the registry and the device agree on its
provisioning, unless the device has run out of handles; after an operation that strands one they do
not, if nothing disturbs the operation or if it is a failed attempt to uninstall. -/
theorem provisioning_agreement (apps : List String) (client : Guid) (options : ServiceOptions)
    (agenda : List (List Control)) (ms : List Move) (app : String) :
    let s := run ms (start apps client options agenda)
    (Spares app ms (start apps client options agenda) → s.link.transport.device.Unwrapped →
        AgreesOn app s) ∧
      ∀ o, Strands app s o → (s.link.transport.Calm ∨ ∃ other, o = .uninstall other) →
        ¬ AgreesOn app (move (.perform o) s) := by
  intro s
  have hstart := healthy_start apps client options agenda
  refine ⟨fun hspares hu => ?_, fun o => not_agreesOn_of_strands (hstart.run ms)⟩
  exact (Tracks.run hstart (agrees_fresh hstart.sane _) hspares).agreesOn hu

/-- A handler that is registered during a provisioning strands its handle. -/
theorem registerEvents_strands :
    ∃ s, s = run [.perform .init, .perform (.startProvisioning "a")] (start ["a"] Guid.nil {} []) ∧
      AgreesOn "a" s ∧ ¬ AgreesOn "a" (move (.perform (.registerEvents "a" (.own "h"))) s) := by
  refine ⟨_, rfl, ?_⟩
  generalize hs : run [.perform .init, .perform (.startProvisioning "a")]
    (start ["a"] Guid.nil {} []) = s
  obtain ⟨hagrees, hstranded⟩ := provisioning_agreement ["a"] Guid.nil {} []
    [.perform .init, .perform (.startProvisioning "a")] "a"
  rw [hs] at hagrees hstranded
  have hrow : s.registry.rowOrFresh "a" =
      { app := "a", provisioning := some 0x1000, loaded := true, openedOn := 1 } := by
    rw [← hs]
    decide +kernel
  have hdevice : s.link.transport.agenda = [] ∧ s.link.transport.device.offline = false ∧
      s.link.transport.device.refuseNext = none ∧ s.link.transport.device.garbleNext = false ∧
      s.link.connected = true ∧ s.options.eventsEnabled = true ∧
      s.link.transport.device.starts = 1 := by
    rw [← hs]
    decide +kernel
  obtain ⟨hagenda, hoffline, hrefuse, hgarble, hconnected, hevents, hstarts⟩ := hdevice
  refine ⟨hagrees ⟨?_, ?_, trivial⟩ ?_, hstranded _ ?_ (.inl ⟨hagenda, hoffline, hrefuse, hgarble⟩)⟩
  · rintro o ⟨⟩
    exact id
  · rintro o ⟨⟩
    exact id
  · show Device.starts _ + _ < _
    rw [hstarts]
    decide
  · show "a" = "a" ∧ _ = true ∧ s.link.connected = true ∧
      (s.registry.rowOrFresh "a").loaded = true ∧ (s.registry.rowOrFresh "a").shared = true ∧
      (s.registry.rowOrFresh "a").provisioning ≠ none ∧
      (s.registry.rowOrFresh "a").checkBind _ = .ok false
    rw [hrow]
    exact ⟨rfl, hevents, hconnected, rfl, rfl, nofun, rfl⟩

end Service

end AppletGateway
