import AppletGateway.Proofs.Handles
import AppletGateway.Proofs.Runs

/-!
# Provisioning handles in the rows and on the device

A row that has an open session and records a handle is right if the device has this handle for the
same app. Most of what an operation does keeps it right: requests about other apps never drop the
handle, a request that drops the app's own handle is followed by the row forgetting it, and a
connection that breaks off takes the epoch of the row with it.

Steps that close a session or end a provisioning are harmless as well if the row records no handle.
So there are two invariants of the single steps, with and without a handle (`Service.Steady`).

Results:
* `Service.Agrees.exchanged_error`, `Service.Agrees.exchanged_ok`: what an exchange does to the row.
* `Service.Agrees.ends_ensureLoaded`: opening a session leaves the row right.
* `Service.keeps_call`: so do requests, under a condition on the request or the row.
-/

namespace AppletGateway

/-- Two states of a row that differ in the handler, the sharing and the token only. -/
structure Row.SameSession (r r' : Row) : Prop where
  app : r'.app = r.app
  provisioning : r'.provisioning = r.provisioning
  loaded : r'.loaded = r.loaded
  openedOn : r'.openedOn = r.openedOn
  retiring : r'.retiring = r.retiring

namespace Service

open Link (Exchanged)

variable {app : String} {t t' : Turn Attended}

/-- The row of `app` is right about its provisioning handle, as long as the device has not run out
of handles. With it goes what keeps it right: the link is sane, and the session of the row was not
opened in the future. -/
structure Agrees (app : String) (t : Turn Attended) : Prop where
  own_name : t.row.app = app
  sane : t.link.Sane
  past : t.row.loaded = true → t.row.openedOn ≤ t.link.epoch
  unloaded : t.row.loaded = false → t.row.provisioning = none
  recorded : t.link.transport.device.Unwrapped → t.link.connected = true → t.row.loaded = true →
    t.row.openedOn = t.link.epoch → ∀ a, t.row.provisioning = some a →
      ∃ token, t.link.transport.device.provisioning.get? a = some (app, token)

/-! ## Links -/

/-- On a link that has started over, the session of the row is one of an earlier connection. -/
theorem Agrees.startedOver (h : Agrees app t) {d : Device} {l : Link Attended}
    (hover : Link.StartedOver t.link.epoch d l) (hs : l.Sane) :
    Agrees app { t with link := l } := by
  have hepoch := hover.epoch
  refine ⟨h.own_name, hs, fun hl => ?_, h.unloaded, fun _ hcl hl ho => ?_⟩
  · have hpast := h.past hl
    show t.row.openedOn ≤ l.epoch
    split at hepoch <;> omega
  · have hpast := h.past hl
    have hcl : l.connected = true := hcl
    have ho : t.row.openedOn = l.epoch := ho
    rw [if_pos hcl] at hepoch
    omega

/-- What leaves the sessions and the connection as they are leaves the row right. -/
theorem Agrees.of_sameSessions (h : Agrees app t) {l : Link Attended} (hs : l.Sane)
    (hc : l.connected = t.link.connected) (he : l.epoch = t.link.epoch)
    (hd : t.link.transport.device.SameSessions l.transport.device) :
    Agrees app { t with link := l } := by
  refine ⟨h.own_name, hs, fun hl => ?_, h.unloaded, fun hu hcl hl ho a ha => ?_⟩
  · show t.row.openedOn ≤ l.epoch
    rw [he]
    exact h.past hl
  · rw [hd.provisioning]
    exact h.recorded (hu.of_sameSessions hd) (hc.symm.trans hcl) hl (Eq.trans ho he) a ha

/-! ## Requests -/

/-- An exchange that fails leaves the row right: if it broke off, the session of the row is one of
an earlier connection. -/
theorem Agrees.exchanged_error (h : Agrees app t) {q : Applet.Request} {e : LinkError}
    {l : Link Attended} (hx : Exchanged t.link q (.error e) l) :
    Agrees app { t with link := l } := by
  have hsane := hx.sane h.sane
  cases hx with
  | down _ => exact h
  | unsent _ _ => exact h
  | lost _ _ _ _ _ hover => exact h.startedOver hover hsane

/-- An exchange that succeeds leaves the row right if the device has kept the handle of the row. -/
theorem Agrees.exchanged_ok (h : Agrees app t) {q : Applet.Request} {reply : Applet.Reply}
    {l : Link Attended}
    (hx : Exchanged t.link q (.ok reply) l)
    (hkeep : ∀ (d : Device) a token, reply = (d.handle q).1 → t.row.provisioning = some a →
      d.Numbered → d.provisioning.get? a = some (app, token) →
      ∃ token, (d.handle q).2.provisioning.get? a = some (app, token)) :
    Agrees app { t with link := l } := by
  have hsane := hx.sane h.sane
  cases hx with
  | @served b _ hc hb _ _ hepoch _ hdev =>
    have hsame := hb.sameSessions
    have hrest : (b.device.handle q).2.SameSessions l.transport.device := by
      rw [hdev]
      exact ⟨rfl, rfl, rfl, rfl, rfl⟩
    refine ⟨h.own_name, hsane, fun hl => ?_, h.unloaded, fun hu _ hl ho a ha => ?_⟩
    · show t.row.openedOn ≤ l.epoch
      rw [hepoch]
      exact h.past hl
    · have ho : t.row.openedOn = l.epoch := ho
      rw [hepoch] at ho
      have hut := (hu.of_sameSessions hrest).of_handle.of_sameSessions hsame
      obtain ⟨token, htoken⟩ := h.recorded hut hc hl ho a ha
      rw [← hsame.provisioning] at htoken
      rw [hrest.provisioning]
      exact hkeep b.device a token rfl ha ((h.sane.numbered hut).of_sameSessions hsame) htoken

/-- A request leaves the row right if it cannot make the device drop the handle of the row. -/
theorem Agrees.exchange (h : Agrees app t) {q : Applet.Request}
    (hkeep : ∀ (d : Device) a token, t.row.provisioning = some a → d.Numbered →
      d.provisioning.get? a = some (app, token) →
      ∃ token, (d.handle q).2.provisioning.get? a = some (app, token)) :
    Ends (call q) t fun _ t' =>
      Agrees app t' ∧ t'.row = t.row ∧ t.link.epoch ≤ t'.link.epoch := by
  refine (Link.ends_exchange h.sane.quiet q).mono
    (R := fun _ l => Agrees app { t with link := l } ∧ t.row = t.row ∧ t.link.epoch ≤ l.epoch)
    fun r l hx => ⟨?_, rfl, hx.epoch_le⟩
  cases r with
  | error e => exact h.exchanged_error hx
  | ok reply => exact h.exchanged_ok hx fun d a token _ => hkeep d a token

/-- A request that does not provision leaves the row right. -/
theorem Agrees.call_calm (h : Agrees app t) {q : Applet.Request} (hq : q.provisions = false) :
    Ends (call q) t fun _ t' =>
      Agrees app t' ∧ t'.row = t.row ∧ t.link.epoch ≤ t'.link.epoch := by
  refine h.exchange fun d a token _ _ htoken => ⟨token, ?_⟩
  rw [Device.provisioning_handle hq]
  exact htoken

/-- Any request leaves a row right that records no handle. -/
theorem Agrees.call_vacant (h : Agrees app t) (hv : t.row.provisioning = none)
    (q : Applet.Request) :
    Ends (call q) t fun _ t' =>
      Agrees app t' ∧ t'.row = t.row ∧ t.link.epoch ≤ t'.link.epoch := by
  refine h.exchange fun d a token ha _ _ => ?_
  rw [hv] at ha
  cases ha

/-- A change of the row leaves it right if what the row still records was right before. -/
theorem Agrees.withRow (h : Agrees app t) {row : Row} (happ : row.app = t.row.app)
    (hpast : row.loaded = true → row.openedOn ≤ t.link.epoch)
    (hun : row.loaded = false → row.provisioning = none)
    (hrec : ∀ a, row.provisioning = some a → row.loaded = true → row.openedOn = t.link.epoch →
      t.row.provisioning = some a ∧ t.row.loaded = true ∧ t.row.openedOn = t.link.epoch) :
    Agrees app { t with row := row } := by
  refine ⟨happ.trans h.own_name, h.sane, hpast, hun, fun hu hc hl ho a ha => ?_⟩
  obtain ⟨ha', hl', ho'⟩ := hrec a ha hl ho
  exact h.recorded hu hc hl' ho' a ha'

/-- Clearing the handle of a row leaves it right. -/
theorem Agrees.endProvisioning (h : Agrees app t) :
    Agrees app { t with row := t.row.endProvisioning } :=
  h.withRow rfl h.past (fun _ => rfl) nofun

/-! ## Opening a session -/

theorem Agrees.ends_dropStale (h : Agrees app t) : Ends dropStale t fun r t' =>
    r = .ok () ∧ Agrees app t' ∧ (t.row.provisioning = none → t'.row.provisioning = none) := by
  simp only [dropStale, modifyRow, ends_bind, ends_get, andThen_ok, ends_ite, ends_modify,
    ends_pure]
  split
  · exact ⟨trivial, h.withRow rfl nofun (fun _ => rfl) nofun, fun _ => rfl⟩
  · exact ⟨trivial, h, id⟩

theorem Agrees.ends_subscribe (h : Agrees app t) : Ends subscribe t fun _ t' =>
    Agrees app t' ∧ t'.row = t.row := by
  simp only [subscribe, ends_bind, ends_get, andThen_ok]
  refine (h.call_calm rfl).mono fun r t' ⟨h', hrow, _⟩ => ?_
  cases r with
  | error e => exact ⟨h', hrow⟩
  | ok reply =>
    simp only [andThen_ok]
    cases reply.asDone <;> exact ⟨h', hrow⟩

/-- Opening a session leaves the row right; a row without a handle gets none. -/
theorem Agrees.ends_ensureLoaded (h : Agrees app t) : Ends ensureLoaded t fun r t' =>
    Agrees app t' ∧ (t.row.provisioning = none → t'.row.provisioning = none) ∧
      (r = .ok () → t'.row.loaded = true) := by
  simp only [ensureLoaded, ends_bind]
  refine h.ends_dropStale.mono fun r t₁ => ?_
  rintro ⟨rfl, h₁, hp₁⟩
  simp only [andThen_ok, ends_get, ends_bind, ends_ite]
  split
  · rename_i hl
    exact ⟨h₁, hp₁, fun _ => hl⟩
  · rename_i hl
    have hnone := h₁.unloaded (Bool.eq_false_iff.mpr hl)
    refine (h₁.call_calm rfl).mono fun r t₂ ⟨h₂, hrow₂, hepoch⟩ => ?_
    rw [← hrow₂] at hnone
    cases r with
    | error e => exact ⟨h₂, fun _ => hnone, nofun⟩
    | ok reply =>
      simp only [andThen_ok, ends_bind]
      cases reply.asDone with
      | error e => exact ⟨h₂, fun _ => hnone, nofun⟩
      | ok _ =>
        have h₃ : Agrees app { t₂ with row :=
            { t₂.row with loaded := true, openedOn := t₁.link.epoch } } :=
          h₂.withRow rfl (fun _ => hepoch) nofun fun a ha => by
            have ha : t₂.row.provisioning = some a := ha
            rw [hnone] at ha
            cases ha
        simp only [ofExcept, ends_pure, andThen_ok, ends_bind, modifyRow, ends_modify]
        split
        · refine h₃.ends_subscribe.mono fun r t₄ ⟨h₄, hrow₄⟩ => ?_
          rw [hrow₄]
          exact ⟨h₄, fun _ => hnone, fun _ => rfl⟩
        · exact ⟨h₃, fun _ => hnone, fun _ => rfl⟩

/-! ## Steps that do not touch the session -/

section SameSession

variable {I : Turn Attended → Prop}

/-- Binding a handler keeps what does not depend on the handler, the sharing or the token. -/
theorem keeps_bind (hI : ∀ {t t' : Turn Attended}, I t → t'.link = t.link →
    t.row.SameSession t'.row → I t') (h : Handler) : Keeps I (changeRow (Row.bind h)) := by
  intro t ht
  simp only [changeRow, Row.bind, ends_bind, ends_get, andThen_ok]
  rcases t.row.checkBind h with e | (_ | _)
  · exact ht
  · exact hI ht rfl ⟨rfl, rfl, rfl, rfl, rfl⟩
  · exact hI ht rfl ⟨rfl, rfl, rfl, rfl, rfl⟩

/-- So does the issue of a token. -/
theorem keeps_issueToken (hI : ∀ {t t' : Turn Attended}, I t → t'.link = t.link →
    t.row.SameSession t'.row → I t') (owner : ProcessId) : Keeps I (issueToken owner) := by
  intro t ht
  refine hI ht rfl ?_
  cases htok : t.row.token with
  | some id =>
    simp only [issueToken, Registry.issueToken, htok, StateT.run, ExceptT.run]
    exact ⟨rfl, rfl, rfl, rfl, rfl⟩
  | none =>
    simp only [issueToken, Registry.issueToken, htok, StateT.run, ExceptT.run]
    exact ⟨rfl, rfl, rfl, rfl, rfl⟩

end SameSession

/-! ## Steps that leave the row right -/

/-- The row of `app` is right, and if `vacant` it records no handle. Steps that close a session or
end a provisioning are harmless in the second case only. -/
structure Steady (app : String) (vacant : Bool) (t : Turn Attended) : Prop where
  agrees : Agrees app t
  vacant : vacant = true → t.row.provisioning = none

variable {vacant : Bool}

theorem keeps_call {q : Applet.Request} (hq : q.provisions = false ∨ vacant = true) :
    Keeps (Steady app vacant) (call q) := by
  intro t h
  have hcall : Ends (call q) t fun _ t' =>
      Agrees app t' ∧ t'.row = t.row ∧ t.link.epoch ≤ t'.link.epoch := by
    rcases hq with hq | hv
    · exact h.agrees.call_calm hq
    · exact h.agrees.call_vacant (h.vacant hv) q
  refine hcall.mono fun _ t' ⟨h', hrow, _⟩ => ⟨h', fun hv => ?_⟩
  rw [hrow]
  exact h.vacant hv

theorem keeps_callQuietly {q : Applet.Request} (hq : q.provisions = false ∨ vacant = true) :
    Keeps (Steady app vacant) (callQuietly q) :=
  fun t h => ends_callQuietly.mpr (keeps_call hq t h)

theorem keeps_ofExcept {σ α : Type} {I : σ → Prop} (x : Except Status α) :
    Keeps I (ofExcept x : Act σ α) := by
  cases x with
  | ok a => exact keeps_pure a
  | error e => exact keeps_throw e

theorem Steady.sameSession {t t' : Turn Attended} (h : Steady app vacant t)
    (hl : t'.link = t.link) (hr : t.row.SameSession t'.row) : Steady app vacant t' := by
  obtain ⟨row, tokens, link⟩ := t'
  obtain rfl : link = t.link := hl
  have hrow : Agrees app { t with row := row } := by
    refine h.agrees.withRow hr.app ?_ ?_ ?_
    · rw [hr.loaded, hr.openedOn]
      exact h.agrees.past
    · rw [hr.loaded, hr.provisioning]
      exact h.agrees.unloaded
    · rw [hr.loaded, hr.openedOn, hr.provisioning]
      exact fun a ha hl ho => ⟨ha, hl, ho⟩
  exact ⟨⟨hrow.own_name, hrow.sane, hrow.past, hrow.unloaded, hrow.recorded⟩,
    fun hv => hr.provisioning.trans (h.vacant hv)⟩

theorem keeps_modifyRow {change : Row → Row} (hc : ∀ r : Row, r.SameSession (change r)) :
    Keeps (Steady app vacant) (modifyRow change) :=
  fun t h => Steady.sameSession h rfl (hc t.row)

/-- Marking a row to go away leaves it right. -/
theorem keeps_retire : Keeps (Steady app vacant) (modifyRow Row.retire) := fun _ h =>
  ⟨h.agrees.withRow rfl h.agrees.past h.agrees.unloaded fun _ ha hl ho => ⟨ha, hl, ho⟩, h.vacant⟩

theorem keeps_ensureLoaded : Keeps (Steady app vacant) ensureLoaded :=
  fun _ h => h.agrees.ends_ensureLoaded.mono fun _ _ ⟨h', hp, _⟩ =>
    ⟨h', fun hv => hp (h.vacant hv)⟩

theorem keeps_subscribe : Keeps (Steady app vacant) subscribe :=
  fun _ h => h.agrees.ends_subscribe.mono fun _ _ ⟨h', hrow⟩ =>
    ⟨h', fun hv => (congrArg Row.provisioning hrow).trans (h.vacant hv)⟩

theorem keeps_unsubscribeQuietly : Keeps (Steady app vacant) unsubscribeQuietly :=
  keeps_get fun t h => keeps_ite (keeps_callQuietly (.inl rfl)) (keeps_pure ()) t h

theorem keeps_closeQuietly : Keeps (Steady app true) closeQuietly := by
  refine keeps_get fun t h => keeps_ite ?_ (keeps_pure ()) t h
  refine (keeps_callQuietly (.inr rfl)).bind fun _ => ?_
  intro t h
  have hnone := h.vacant rfl
  refine ⟨h.agrees.withRow rfl nofun (fun _ => hnone) fun a ha => ?_, fun _ => hnone⟩
  have ha : t.row.provisioning = some a := ha
  rw [hnone] at ha
  cases ha

theorem keeps_makeExclusive : Keeps (Steady app true) makeExclusive := by
  have hlast : Keeps (Steady app true) (modifyRow fun r => { r with shared := false }) :=
    keeps_modifyRow fun _ => ⟨rfl, rfl, rfl, rfl, rfl⟩
  exact keeps_get fun t h => keeps_ite (keeps_closeQuietly.bind fun _ => hlast) hlast t h

/-- Making a session exclusive that is not a shared one leaves the row right. -/
theorem Steady.ends_makeExclusive {t : Turn Attended} (h : Steady app vacant t)
    (hs : ¬ (t.row.loaded = true ∧ t.row.shared = true)) :
    Ends makeExclusive t fun _ t' => Steady app vacant t' := by
  have hlast : Keeps (Steady app vacant) (modifyRow fun r => { r with shared := false }) :=
    keeps_modifyRow fun _ => ⟨rfl, rfl, rfl, rfl, rfl⟩
  simp only [makeExclusive, ends_bind, ends_get, andThen_ok]
  rw [if_neg hs]
  exact hlast t h

end Service

end AppletGateway
