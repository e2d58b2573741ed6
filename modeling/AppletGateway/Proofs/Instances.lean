import AppletGateway.Proofs.Registrations
import AppletGateway.Proofs.Runs
import AppletGateway.Proofs.Turns

/-!
# Instances and their owners

Whoever started the instance of an app can stop it, nobody else can, and what the co-processor
answers has no part in it. The row of the app goes away with the instance, and the number of a row
that has gone away is not given out again, so a token that has become invalid stays so when the app
is started anew.

The service is looked at over any channel; between its operations the link may become any other, and
its registry may be used directly.

Results:
* `Service.updated_perform`: an operation is one step of the registry.
* `Service.ends_stopInstance`: when an instance is stopped, and what is left if it is not.
* `Service.instances_end_for_good`: stopping, and that a token whose row has gone away stays
  invalid.
-/

namespace AppletGateway

namespace Registry

variable {r r' : Registry} {app : String} {n : Nat} {id : UInt32} {owner : ProcessId}

/-- A token is invalid once the row that had it is gone. -/
theorem Faithful.resolve_of_gone (h : Faithful n r) (hu : Updated r r')
    (hid : r.resolve id = some ⟨app, owner⟩) (hgone : r'.row? app = none) :
    r'.resolve id = none := by
  obtain ⟨row, hrow, htok, howner⟩ := (h.resolves id app owner).mp hid
  cases hu with
  | same => exact nomatch hrow.symm.trans hgone
  | drained => exact Table.get?_empty id
  | @row other f hname hf =>
    by_cases hne : other = app
    · subst hne
      have htok' : f.row.token = some id := by
        have hfocus : (r.rowOrFresh other).token = some id := by
          rw [rowOrFresh_of_row? hrow]
          exact htok
        cases hf with
        | same hsame _ _ => exact hsame.trans hfocus
        | first _ hnone _ _ _ => exact nomatch hnone.symm.trans hfocus
      rw [row?_settle] at hgone
      rw [resolve_settle]
      split at hgone
      · rename_i hdrop
        exact if_pos ⟨hdrop, htok'⟩
      · cases hgone
    · rw [get?_settle_of_ne r f hne] at hgone
      exact nomatch hrow.symm.trans hgone

end Registry

namespace Service

variable {τ : Type} [Transport τ] {s : Service τ} {n : Nat} {id : UInt32} {app : String}
  {owner : ProcessId}

/-! ## Runs of a service -/

/-- A step of a service. -/
inductive Access (τ : Type)
  | perform (o : Operation)
  /-- The link becomes another one: events are polled or collected, or its channel changes. -/
  | link (l : Link τ)
  /-- The registry is used directly. -/
  | registry (c : Registry.Call)

/-- The service after a step, whatever that has ended with. -/
def Access.apply : Access τ → Service τ → Service τ
  | perform o, s => ((Service.perform o).run s).2
  | link l, s => { s with link := l }
  | registry c, s => { s with registry := c.apply s.registry }

/-- The service after some steps, the first of them first. -/
def accessed (as : List (Access τ)) (s : Service τ) : Service τ :=
  as.foldl (fun s a => a.apply s) s

/-- The number of tokens issued in some steps. -/
def issuedBy : List (Access τ) → Service τ → Nat
  | [], _ => 0
  | a :: as, s => s.registry.issuedBetween (a.apply s).registry + issuedBy as (a.apply s)

/-- A service over a link, before anything is done. -/
def new (link : Link τ) (options : ServiceOptions) : Service τ :=
  { link := link, options := options }

theorem accessed_append (as as' : List (Access τ)) (s : Service τ) :
    accessed (as ++ as') s = accessed as' (accessed as s) := List.foldl_append

theorem issuedBy_append (as as' : List (Access τ)) (s : Service τ) :
    issuedBy (as ++ as') s = issuedBy as s + issuedBy as' (accessed as s) := by
  induction as generalizing s with
  | nil => simp [issuedBy, accessed]
  | cons a as ih =>
    simp only [List.cons_append, issuedBy, ih, accessed, List.foldl_cons]
    omega

/-- An operation is one step of the registry. -/
theorem updated_perform (hs : s.registry.Sound) (o : Operation) :
    Ends (perform o) s fun _ s' => Registry.Updated s.registry s'.registry := by
  by_cases hi : o = .init
  · subst hi
    exact .same
  by_cases hd : o = .deinit
  · subst hd
    show Registry.Updated s.registry ((deinit (τ := τ)).run s).2.registry
    simp only [deinit, ExceptT.run]
    split
    · exact .drained
    · exact .same
  refine (ends_perform hs hi hd).mono fun r s' h => ?_
  cases h with
  | refused e => exact .same
  | idle a _ => exact .same
  | turn htarget h =>
    exact .row (h.focusSound (hs.focus _)).own_name (h.issued (hs.app_rowOrFresh _))

theorem Access.updated (h : s.registry.Faithful n) (a : Access τ) :
    Registry.Updated s.registry (a.apply s).registry := by
  cases a with
  | perform o => exact updated_perform h.sound o
  | link l => exact .same
  | registry c => exact c.updated h

/-- The registry of a service stays faithful as long as there are tokens. -/
theorem faithful_accessed (h : s.registry.Faithful n) (as : List (Access τ))
    (hlimit : n + issuedBy as s < UInt32.size) :
    (accessed as s).registry.Faithful (n + issuedBy as s) := by
  induction as generalizing n s with
  | nil => exact h
  | cons a as ih =>
    have hsum : n + issuedBy (a :: as) s =
        n + s.registry.issuedBetween (a.apply s).registry + issuedBy as (a.apply s) := by
      simp only [issuedBy]
      omega
    rw [hsum] at hlimit ⊢
    exact ih (h.updated (a.updated h) (by omega)) hlimit

/-- A token that was issued and is invalid stays so. -/
theorem resolve_accessed_eq_none {as : List (Access τ)} (h : s.registry.Faithful n)
    (hlimit : n + issuedBy as s < UInt32.size) (hid : id.toNat ≤ n)
    (hnone : s.registry.resolve id = none) : (accessed as s).registry.resolve id = none := by
  induction as generalizing n s with
  | nil => exact hnone
  | cons a as ih =>
    simp only [issuedBy] at hlimit
    have hfirst : n + s.registry.issuedBetween (a.apply s).registry < UInt32.size := by omega
    have hrest : n + s.registry.issuedBetween (a.apply s).registry + issuedBy as (a.apply s) <
        UInt32.size := by omega
    exact ih (h.updated (a.updated h) hfirst) hrest (by omega)
      (h.resolve_eq_none (a.updated h) hfirst hid hnone)

/-! ## Stopping an instance -/

/-- How stopping the instance `id` for a caller ends. -/
structure Stopping (caller : Caller) (id : UInt32) (s : Service τ) (result : Except Status Unit)
    (s' : Service τ) : Prop where
  /-- It succeeds exactly if the link is connected and the instance is the caller's. -/
  ok_iff : result = .ok () ↔ s.link.connected = true ∧
    ∃ app, s.registry.resolve id = some ⟨app, caller.process⟩
  /-- The row of the app, its handler and its token are gone. -/
  gone : result = .ok () → ∀ app owner, s.registry.resolve id = some ⟨app, owner⟩ →
    s'.registry.row? app = none ∧ s'.registry.callbackFor app = none ∧
      s'.registry.resolve id = none
  offline : s.link.connected = false → result = .error .libraryNotInitialized
  invalid : s.link.connected = true → s.registry.resolve id = none →
    result = .error .invalidInstanceId
  foreign : s.link.connected = true → ∀ app owner,
    s.registry.resolve id = some ⟨app, owner⟩ → owner ≠ caller.process →
    result = .error .invalidProcess
  /-- If it fails everything is as before, the channel included. -/
  unchanged : result ≠ .ok () → s' = s

omit [Transport τ] in
/-- What a caller is told about an instance that is not stopped. -/
theorem stopping_refused {caller : Caller} {e : Status}
    (hno : ¬ (s.link.connected = true ∧ ∃ app, s.registry.resolve id = some ⟨app, caller.process⟩))
    (hoffline : s.link.connected = false → e = .libraryNotInitialized)
    (hinvalid : s.link.connected = true → s.registry.resolve id = none → e = .invalidInstanceId)
    (hforeign : s.link.connected = true → s.registry.resolve id ≠ none → e = .invalidProcess) :
    Stopping caller id s (.error e) s where
  ok_iff := iff_of_false nofun hno
  gone := nofun
  offline h := congrArg Except.error (hoffline h)
  invalid h hid := congrArg Except.error (hinvalid h hid)
  foreign h _ _ hid _ := congrArg Except.error (hforeign h (by rw [hid]; nofun))
  unchanged _ := rfl

omit [Transport τ] in
/-- An instance is stopped for its owner when the row of its app is dropped. -/
theorem stopping_done {caller : Caller} {t : Turn τ} (hon : s.link.connected = true)
    (hid : s.registry.resolve id = some ⟨app, caller.process⟩) (hretire : t.row.retiring = true)
    (htok : t.row.token = some id) : Stopping caller id s (.ok ()) (s.settled app t) where
  ok_iff := iff_of_true rfl ⟨hon, app, hid⟩
  gone := by
    intro _ app' owner hid'
    obtain ⟨rfl, -⟩ := Instance.mk.inj (Option.some.inj (hid.symm.trans hid'))
    have hdrop : (t.row.retiring || t.row.isVacant) = true := by
      rw [hretire]
      rfl
    have hgone : (s.settled app t).registry.row? app = none := by
      rw [settled, Registry.row?_settle, if_pos hdrop]
    refine ⟨hgone, ?_, ?_⟩
    · rw [Registry.callbackFor, hgone]
      rfl
    · rw [settled, Registry.resolve_settle, if_pos ⟨hdrop, htok⟩]
  offline hoff := nomatch hoff.symm.trans hon
  invalid _ hnone := nomatch hid.symm.trans hnone
  foreign _ _ _ hid' hother :=
    absurd (congrArg Instance.owner (Option.some.inj (hid'.symm.trans hid))) hother
  unchanged hno := absurd rfl hno

theorem ends_stopInstance (h : s.registry.Faithful n) (caller : Caller) (id : UInt32) :
    Ends (stopInstance caller id) s (Stopping caller id s) := by
  unfold stopInstance
  refine guards_requireInit.ends (fun hoff => ?_) fun hon => ?_
  · exact stopping_refused (fun hyes => nomatch hoff.symm.trans hyes.1) (fun _ => rfl)
      (fun hon => nomatch hoff.symm.trans hon) (fun hon => nomatch hoff.symm.trans hon)
  simp only [ends_bind, ends_get, andThen_ok]
  cases hid : s.registry.resolve id with
  | none =>
    exact stopping_refused (fun ⟨_, _, hyes⟩ => nomatch hid.symm.trans hyes)
      (fun hoff => nomatch hoff.symm.trans hon) (fun _ _ => rfl) (fun _ hsome => absurd hid hsome)
  | some record =>
    obtain ⟨app, owner⟩ := record
    dsimp only
    split
    · rename_i hother
      refine stopping_refused (fun ⟨_, app', hyes⟩ => ?_) (fun hoff => nomatch hoff.symm.trans hon)
        (fun _ hnone => nomatch hid.symm.trans hnone) (fun _ _ => rfl)
      exact hother (congrArg Instance.owner (Option.some.inj (hid.symm.trans hyes)))
    · rename_i hown
      obtain rfl : owner = caller.process := Decidable.not_not.mp hown
      obtain ⟨row, hrow, htok, -⟩ := (h.resolves id app caller.process).mp hid
      have hfocus : (s.turn app).row = row := Registry.rowOrFresh_of_row? hrow
      rw [ends_onExisting, hrow]
      simp only [Option.isNone_some, Bool.false_eq_true, if_false, ends_bind, ends_get, andThen_ok,
        hfocus, htok, ne_eq, not_true_eq_false]
      -- From here on nothing can fail, whatever the co-processor answers.
      refine ends_unsubscribeQuietly.mono fun r t₁ ⟨hr, hrow₁⟩ => ?_
      subst hr
      rw [andThen_ok, ends_bind]
      refine ends_closeQuietly.mono fun r t₂ ⟨hr, hrow₂⟩ => ?_
      subst hr
      refine stopping_done hon hid rfl ?_
      show t₂.row.token = some id
      rw [hrow₂, hrow₁, hfocus]
      exact htok

/-! ## Rows that go away -/

/-- The step drops the row of an app: its instance is stopped, the app is uninstalled, the row is
removed, or all rows are drained. -/
def Drops (s : Service τ) (app : String) : Access τ → Prop
  | .perform (.stopInstance caller id) => ((stopInstance caller id).run s).1 = .ok () ∧
      ∃ owner, s.registry.resolve id = some ⟨app, owner⟩
  | .perform (.uninstall other) => other = app ∧ ((uninstall app).run s).1 = .ok ()
  | .perform .deinit => s.link.connected = true
  | .registry (.remove other) => other = app
  | .registry .drain => True
  | _ => False

/-- An app that has been uninstalled has no row. -/
theorem row?_uninstall (hs : s.registry.Sound) (app : String) :
    Ends (uninstall app) s fun r s' => r = .ok () → s'.registry.row? app = none := by
  refine (ends_perform (o := .uninstall app) hs nofun nofun).mono fun r s' h hr => ?_
  cases h with
  | refused e => cases hr
  | idle a h => rcases h with h | ⟨_, h, _⟩ <;> cases h
  | @turn app' r t htarget h =>
    subst hr
    obtain rfl : app = app' := Option.some.inj htarget
    obtain ⟨t₁, row, _, hrow, h₂⟩ := h
    obtain rfl : row = t₁.row.retire := hrow
    have hretire : t.row.retiring = true := h₂.retiring
    rw [settled, Registry.row?_settle, hretire]
    rfl

theorem Drops.row?_eq_none {a : Access τ} (h : s.registry.Faithful n) (hd : Drops s app a) :
    (a.apply s).registry.row? app = none := by
  cases a with
  | link l => exact hd.elim
  | registry c =>
    cases c with
    | remove other =>
      obtain rfl : other = app := hd
      show ((Registry.updateExisting other
        (modify fun f => { f with row := f.row.retire })).run s.registry).2.row? other = none
      rw [Registry.run_updateExisting]
      split
      · exact (Registry.row?_settle _ _ _).trans (if_pos rfl)
      · rename_i hnone
        exact Option.not_isSome_iff_eq_none.mp hnone
    | drain => exact Table.get?_empty app
    | _ => exact hd.elim
  | perform o =>
    cases o with
    | stopInstance caller id =>
      obtain ⟨hok, owner, hid⟩ := hd
      exact ((ends_stopInstance h caller id).gone hok app owner hid).1
    | uninstall other =>
      obtain ⟨rfl, hok⟩ := hd
      exact row?_uninstall h.sound other hok
    | deinit =>
      have hon : s.link.connected = true := hd
      show ((deinit (τ := τ)).run s).2.registry.row? app = none
      simp only [deinit, ExceptT.run, hon, if_true]
      exact Table.get?_empty app
    | _ => exact hd.elim

/-- A token whose row goes away in one step is invalid ever after. -/
theorem Drops.resolve_eq_none {a : Access τ} {later : List (Access τ)}
    (h : s.registry.Faithful n) (hd : Drops s app a)
    (hid : s.registry.resolve id = some ⟨app, owner⟩)
    (hlimit : n + issuedBy (a :: later) s < UInt32.size) :
    (accessed (a :: later) s).registry.resolve id = none := by
  simp only [issuedBy] at hlimit
  have hfirst : n + s.registry.issuedBetween (a.apply s).registry < UInt32.size := by omega
  have hrest : n + s.registry.issuedBetween (a.apply s).registry + issuedBy later (a.apply s) <
      UInt32.size := by omega
  have hissued : id.toNat ≤ n + s.registry.issuedBetween (a.apply s).registry := by
    have := (h.numbered id _ hid).2
    omega
  have hgone : (a.apply s).registry.resolve id = none :=
    h.resolve_of_gone (a.updated h) hid (hd.row?_eq_none h)
  show (accessed later (a.apply s)).registry.resolve id = none
  exact resolve_accessed_eq_none (h.updated (a.updated h) hfirst) hrest hissued hgone

/-- In a service over any channel that has issued at most `2 ^ 32 - 1` tokens, stopping an
instance succeeds exactly if the link is connected and the instance is the caller's, and changes
nothing otherwise. A token whose row has been stopped, uninstalled, removed or drained stays
invalid. -/
theorem instances_end_for_good (link : Link τ) (options : ServiceOptions)
    (before : List (Access τ)) (hlimit : issuedBy before (new link options) < UInt32.size) :
    (∀ caller id, Ends (stopInstance caller id) (accessed before (new link options))
      (Stopping caller id (accessed before (new link options)))) ∧
    ∀ a app id owner, Drops (accessed before (new link options)) app a →
      (accessed before (new link options)).registry.resolve id = some ⟨app, owner⟩ →
      ∀ later, issuedBy (before ++ a :: later) (new link options) < UInt32.size →
        (accessed (before ++ a :: later) (new link options)).registry.resolve id = none := by
  have hnew : (new link options).registry.Faithful 0 := Registry.faithful_new
  have h := faithful_accessed hnew before (by omega)
  refine ⟨fun caller id => ends_stopInstance h caller id, ?_⟩
  intro a app id owner hd hid later hlater
  rw [issuedBy_append] at hlater
  rw [accessed_append]
  exact hd.resolve_eq_none h hid (by omega)

/-- A caller of another process cannot stop the instance, the one that started it can, and after it
is started anew the old token is still invalid. -/
theorem instance_started_anew :
    let link := (start ["clock"] Guid.nil {} []).link
    let caller : Caller := ⟨.peer 100, 1000⟩
    let before : List (Access Attended) :=
      [.perform .init, .perform (.startInstance caller "clock" none)]
    let anew := before ++ .perform (.stopInstance caller 1) ::
      [.perform (.startInstance caller "clock" none)]
    issuedBy before (new link {}) < UInt32.size ∧
      ((stopInstance ⟨.peer 200, 1000⟩ 1).run (accessed before (new link {}))).1 =
        .error .invalidProcess ∧
      (accessed anew (new link {})).registry.resolve 2 = some ⟨"clock", .peer 100⟩ ∧
      (accessed anew (new link {})).registry.resolve 1 = none := by
  intro link caller before anew
  have hlimit : issuedBy before (new link {}) < UInt32.size := by decide +kernel
  have hid : (accessed before (new link {})).registry.resolve 1 = some ⟨"clock", .peer 100⟩ := by
    decide +kernel
  have hon : (accessed before (new link {})).link.connected = true := by decide +kernel
  obtain ⟨hstop, hgone⟩ := instances_end_for_good link {} before hlimit
  have hok := (hstop caller 1).ok_iff.mpr ⟨hon, "clock", hid⟩
  refine ⟨hlimit, (hstop ⟨.peer 200, 1000⟩ 1).foreign hon "clock" (.peer 100) hid (by decide),
    by decide +kernel, ?_⟩
  exact hgone (.perform (.stopInstance caller 1)) "clock" 1 (.peer 100) ⟨hok, _, hid⟩ hid
    [.perform (.startInstance caller "clock" none)] (by decide +kernel)

end Service

end AppletGateway
