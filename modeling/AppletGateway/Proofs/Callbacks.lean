import AppletGateway.Proofs.Turns

/-!
# Which handlers are bound after an operation

An operation that fails leaves the handler of every app as it was. One that succeeds binds the
handler that it was given, takes away the handler of the one app that it unregisters, uninstalls or
stops, or leaves all handlers alone; tearing down takes them all away if there is a connection.

Results:
* `Service.callbackFor_perform`: the handler of any app after any operation.
-/

namespace AppletGateway

variable {app : String}

theorem Row.bind_eq_ok {r r' : Row} {h : Handler} (hb : r.bind h = .ok r') :
    r'.callback = some h ∧ r'.retiring = r.retiring := by
  unfold Row.bind Row.checkBind at hb
  cases hc : r.callback with
  | none =>
    rw [hc] at hb
    obtain rfl := Except.ok.inj hb
    exact ⟨rfl, rfl⟩
  | some bound =>
    simp only [hc] at hb
    split at hb
    · rename_i hsame
      obtain rfl := Except.ok.inj hb
      exact ⟨hc.trans (congrArg some hsame), rfl⟩
    · cases hb

/-- The handlers after an update of the row of one app. -/
theorem Registry.callbackFor_settle (r : Registry) (app other : String) (f : Focus) :
    (r.settle app f).callbackFor other = if app = other then
      (if f.row.retiring then none else f.row.callback) else r.callbackFor other := by
  unfold callbackFor
  rw [row?_settle_eq]
  split
  · cases hr : f.row.retiring with
    | true => rfl
    | false =>
      -- A row that is dropped as vacant has no handler.
      cases hv : f.row.isVacant with
      | false => rfl
      | true =>
        obtain ⟨_, _, hcallback, _⟩ := Row.isVacant_iff.mp hv
        rw [hcallback]
        rfl
  · rfl

namespace Service

variable {τ : Type} [Transport τ] {α : Type} {s : Service τ} {o : Operation}

/-- The handler of an app after an operation that succeeds. -/
def rebound (s : Service τ) (app : String) : Operation → Option Handler
  | .deinit => if s.link.connected then none else s.registry.callbackFor app
  | .registerEvents other h | .startInstance _ other (some h) =>
    if other = app then some h else s.registry.callbackFor app
  | .unregisterEvents other | .uninstall other =>
    if other = app then none else s.registry.callbackFor app
  | .stopInstance _ token =>
    if (s.registry.resolve token).map Instance.app = some app then none
    else s.registry.callbackFor app
  | _ => s.registry.callbackFor app

/-- The handler of an app after an operation that ends with `r`. -/
def callbackAfter (s : Service τ) (o : Operation) (app : String) :
    (r : Except Status α) → Option Handler
  | .ok _ => rebound s app o
  | .error _ => s.registry.callbackFor app

omit [Transport τ] in
/-- The handler of the app of a turn after the last change. -/
theorem callback_of_finish {r r' : Row} (hr : r.retiring = false)
    (hcallback : r.callback = s.registry.callbackFor app) (ht : target s o = some app)
    (h : finish o r r') :
    (if r'.retiring then none else r'.callback) = rebound s app o := by
  have hsame : (if r.retiring then none else r.callback) = s.registry.callbackFor app := by
    rw [hr, ← hcallback]
    rfl
  have hbind {handler : Handler} (hb : r.bind handler = .ok r') :
      (if r'.retiring then none else r'.callback) = some handler := by
    obtain ⟨hc, hr'⟩ := Row.bind_eq_ok hb
    rw [hr', hr, hc]
    rfl
  cases o with
  | registerEvents other handler =>
    obtain rfl := Option.some.inj ht
    exact (hbind h).trans (if_pos rfl).symm
  | startInstance caller other handler =>
    obtain rfl := Option.some.inj ht
    cases handler with
    | none =>
      obtain rfl : r' = r := h
      exact hsame
    | some handler => exact (hbind h).trans (if_pos rfl).symm
  | unregisterEvents other =>
    obtain rfl := Option.some.inj ht
    obtain rfl : r' = r.unbind := h
    simp [Row.unbind, rebound, hr]
  | uninstall other =>
    obtain rfl := Option.some.inj ht
    obtain rfl : r' = r.retire := h
    simp [Row.retire, rebound]
  | stopInstance caller token =>
    obtain rfl : r' = r.retire := h
    have ht : (s.registry.resolve token).map Instance.app = some app := ht
    simp [Row.retire, rebound, ht]
  | init => cases ht
  | deinit => cases ht
  | version => cases ht
  | _ =>
    obtain rfl : r' = r := h
    exact hsame

omit [Transport τ] in
/-- An operation leaves the handlers of the apps alone that it does not work on. -/
theorem rebound_of_ne {other : String} (hd : o ≠ .deinit) (ht : target s o = some other)
    (hne : other ≠ app) : rebound s app o = s.registry.callbackFor app := by
  cases o with
  | deinit => exact absurd rfl hd
  | registerEvents =>
    obtain rfl := Option.some.inj ht
    exact if_neg hne
  | startInstance caller other handler =>
    obtain rfl := Option.some.inj ht
    cases handler with
    | none => rfl
    | some handler => exact if_neg hne
  | unregisterEvents =>
    obtain rfl := Option.some.inj ht
    exact if_neg hne
  | uninstall =>
    obtain rfl := Option.some.inj ht
    exact if_neg hne
  | stopInstance caller token =>
    have ht : (s.registry.resolve token).map Instance.app = some other := ht
    refine if_neg fun h => hne ?_
    exact Option.some.inj (ht.symm.trans h)
  | _ => rfl

theorem Performed.callbackFor {r : Except Status α} {s' : Service τ} (h : Performed o s r s')
    (hs : s.registry.Sound) (hd : o ≠ .deinit) (app : String) :
    s'.registry.callbackFor app = callbackAfter s o app r := by
  cases h with
  | refused e => rfl
  | idle a h =>
    rcases h with rfl | ⟨other, rfl, _, hnone⟩
    · rfl
    · show _ = if other = app then none else _
      split
      · rename_i happ
        subst happ
        rw [Registry.callbackFor, hnone]
        rfl
      · rfl
  | @turn other r t ht hturn =>
    refine (Registry.callbackFor_settle _ _ _ _).trans ?_
    have hcallback := s.registry.callback_rowOrFresh other
    have hstay := hs.staying_rowOrFresh other
    split
    · rename_i happ
      subst happ
      cases r with
      | error e =>
        have hr := (Evolves.retiring hturn).trans hstay
        have hc := (Evolves.callback hturn).trans hcallback
        simp only [hr]
        exact hc
      | ok a =>
        obtain ⟨t₁, row, h₁, hfinish, h₂⟩ := hturn
        have hlast := callback_of_finish (h₁.retiring.trans hstay) (h₁.callback.trans hcallback)
          ht hfinish
        simp only [callbackAfter, ← hlast, h₂.retiring, h₂.callback]
    · rename_i hne
      cases r with
      | error e => rfl
      | ok a => exact (rebound_of_ne hd ht hne).symm

/-- The handler of any app after any operation. -/
theorem callbackFor_perform (hs : s.registry.Sound) (o : Operation) (app : String) :
    Ends (perform o) s fun r s' => s'.registry.callbackFor app = callbackAfter s o app r := by
  by_cases hi : o = .init
  · subst hi
    show _ = callbackAfter s .init app ((init (τ := τ)).run s).1
    cases ((init (τ := τ)).run s).1 <;> rfl
  by_cases hd : o = .deinit
  · subst hd
    show ((deinit (τ := τ)).run s).2.registry.callbackFor app =
      callbackAfter s .deinit app ((deinit (τ := τ)).run s).1
    simp only [deinit, ExceptT.run]
    cases hc : s.link.connected with
    | true => exact (if_pos hc).symm
    | false => exact (if_neg (by rw [hc]; exact Bool.false_ne_true)).symm
  exact (ends_perform hs hi hd).mono fun _ _ h => h.callbackFor hs hd app

end Service

end AppletGateway
