import AppletGateway.Proofs.Instances
import AppletGateway.Proofs.Reachable

/-!
# Registrations that fail

Binding a handler, alone or along with an instance, goes through several requests: a shared session
is closed, an exclusive one is opened, and its events are subscribed to. Before the first of them
the row is marked as one of an exclusive session; the handler and the token come after the last. So
a request that fails on the way leaves the row as it was but for the mark, which nothing takes back.
It does no harm as long as the row holds nothing else, for then the row is dropped.

Results:
* `Service.Turn.Current.ends_ensureLoaded`, `Service.Turn.Current.ends_bindHandler`: what the steps
  of a registration do to a row without a session of an earlier connection.
* `Service.Reachable.occupied`: every row that is kept holds something.
* `Service.failed_registration`: what a registration that fails leaves of the row of its app.
-/

namespace AppletGateway

namespace Row

variable {r r' : Row}

/-- The row of a session that is to be an exclusive one: a shared one is not open any more. -/
def marked (r : Row) : Row := { r with loaded := r.loaded && !r.shared, shared := false }

/-- The row `r'` differs from `r` at most in what it says of an open session, and it has one if `r`
has one. -/
structure Opened (r r' : Row) : Prop where
  same : r' = { r with loaded := r'.loaded, openedOn := r'.openedOn }
  loaded : r.loaded = true → r'.loaded = true

theorem Opened.refl (r : Row) : r.Opened r := ⟨rfl, id⟩

/-- Whatever can be read off a row without a look at its session has not changed. -/
theorem Opened.congr {β : Type} (h : r.Opened r') {f : Row → β}
    (hf : ∀ r loaded openedOn, f { r with loaded := loaded, openedOn := openedOn } = f r) :
    f r' = f r :=
  calc f r' = f { r with loaded := r'.loaded, openedOn := r'.openedOn } := congrArg f h.same
    _ = f r := hf r _ _

theorem Opened.checkBind (h : r.Opened r') (handler : Handler) :
    r'.checkBind handler = r.checkBind handler :=
  h.congr (f := fun r => r.checkBind handler) fun _ _ _ => rfl

/-- A row that holds nothing held nothing before. -/
theorem Opened.isVacant (h : r.Opened r') (hv : r'.isVacant = true) : r.isVacant = true := by
  have hp : r'.provisioning = r.provisioning := h.congr fun _ _ _ => rfl
  have hc : r'.callback = r.callback := h.congr fun _ _ _ => rfl
  have ht : r'.token = r.token := h.congr fun _ _ _ => rfl
  rw [isVacant_iff, hp, hc, ht] at hv
  refine isVacant_iff.mpr ⟨?_, hv.2⟩
  exact Bool.eq_false_iff.mpr fun hl => nomatch hv.1.symm.trans (h.loaded hl)

/-- An exclusive session is as it is to be. -/
theorem marked_of_exclusive (h : r.shared = false) : r.marked = r := by
  cases r
  cases h
  simp [marked]

end Row

/-- The operation binds a handler to the app or starts an instance of it, or both. -/
inductive Operation.Registers (app : String) : Operation → Prop
  | events (handler : Handler) : Registers app (.registerEvents app handler)
  | start (caller : Caller) (handler : Option Handler) :
    Registers app (.startInstance caller app handler)

namespace Registry

variable {r r' : Registry}

/-- No step of a registry leaves a vacant row. -/
theorem Occupied.updated (h : Occupied r) (hu : Updated r r') : Occupied r' := by
  cases hu with
  | same => exact h
  | drained => exact occupied_of_empty rfl
  | @row app f _ _ => exact h.settle app f

end Registry

namespace Service

/-! ## The steps of a registration -/

section

variable {τ : Type} [Transport τ] {α : Type} {app : String} {t : Turn τ} {handler : Handler}

/-- The row has no session of an earlier connection. -/
def Turn.Current (t : Turn τ) : Prop := t.row.loaded = true → t.row.openedOn = t.link.epoch

theorem ends_subscribe_row : Ends subscribe t fun _ t' => t'.row = t.row := by
  rw [subscribe, ends_bind, ends_get, andThen_ok]
  exact insists_asDone.ends (fun _ _ => rfl) fun _ => rfl

/-- However opening a session ends, it is nothing but the session that has changed. -/
theorem Turn.Current.ends_ensureLoaded (h : t.Current) :
    Ends ensureLoaded t fun _ t' => t.row.Opened t'.row := by
  rw [ensureLoaded, ends_bind, ends_dropStale_eq, if_neg fun hs => hs.2 (h hs.1), andThen_ok,
    ends_bind, ends_get, andThen_ok, ends_ite]
  split
  · exact .refl _
  · refine (insists_asDone_bind _).ends (q := t.opening) (fun _ e => .refl _) fun _ => ?_
    have hopened : t.row.Opened t.opened.row := ⟨rfl, fun _ => rfl⟩
    simp only [ofExcept, Applet.Reply.asDone, ends_bind, ends_pure, andThen_ok, modifyRow,
      ends_modify]
    show Ends (if t.row.callback.isSome = true then subscribe else pure ()) t.opened _
    split
    · refine ends_subscribe_row.mono fun _ t' hrow => ?_
      rw [hrow]
      exact hopened
    · exact hopened

/-- Making the session an exclusive one marks the row. -/
theorem Turn.Current.ends_makeExclusive (h : t.Current) : Ends makeExclusive t fun r t' =>
    r = .ok () ∧ t'.row = t.row.marked ∧ t'.Current := by
  rw [ends_makeExclusive_eq]
  split
  · -- Closing the session may cost the connection, but the row is not about a session any more.
    rename_i hs
    refine ⟨rfl, ?_, nofun⟩
    simp [Row.marked, hs]
  · rename_i hs
    refine ⟨rfl, ?_, h⟩
    cases hl : t.row.loaded with
    | false => simp [Row.marked, hl]
    | true =>
      have hexclusive : t.row.shared = false := Bool.eq_false_iff.mpr fun hx => hs ⟨hl, hx⟩
      simp [Row.marked, hl, hexclusive]

/-- The step does not fail where the handler can be bound. -/
def Commits (handler : Handler) (x : OnRow τ α) : Prop :=
  ∀ (t : Turn τ) bound, t.row.checkBind handler = .ok bound → Ends x t fun r _ => ∃ a, r = .ok a

omit [Transport τ] in
theorem commits_changeRow : Commits (τ := τ) handler (changeRow (Row.bind handler)) := by
  intro t bound hc
  obtain ⟨row, hrow⟩ : ∃ row, t.row.bind handler = .ok row := by
    rw [Row.bind, hc]
    cases bound <;> exact ⟨_, rfl⟩
  rw [changeRow, ends_bind, ends_get, andThen_ok, hrow]
  exact ⟨(), rfl⟩

omit [Transport τ] in
theorem Commits.issueToken {x : OnRow τ Unit} (hx : Commits handler x) (owner : ProcessId) :
    Commits handler (x >>= fun _ => issueToken owner) := by
  intro t bound hc
  rw [ends_bind]
  refine (hx t bound hc).mono ?_
  rintro _ t' ⟨a, rfl⟩
  exact ⟨_, rfl⟩

/-- Where binding a handler fails, the row is the marked one but for its session. -/
theorem Turn.Current.ends_bindHandler (h : t.Current) {bound : Bool}
    (hc : t.row.checkBind handler = .ok bound) {x : OnRow τ α} (hx : Commits handler x) :
    Ends (do
      makeExclusive
      ensureLoaded
      subscribe
      x) t fun r t' => ∀ e, r = .error e → t.row.marked.Opened t'.row := by
  rw [ends_bind]
  refine h.ends_makeExclusive.mono fun r t₁ ⟨hr, hrow₁, hcur⟩ => ?_
  subst hr
  -- From here on the row is the marked one but for its session, until the last step binds.
  rw [andThen_ok, ends_bind]
  refine hcur.ends_ensureLoaded.mono fun r t₂ hopened => ?_
  rw [hrow₁] at hopened
  cases r with
  | error e => exact fun _ _ => hopened
  | ok _ =>
    rw [andThen_ok, ends_bind]
    refine ends_subscribe_row.mono fun r t₃ hrow₃ => ?_
    rw [← hrow₃] at hopened
    cases r with
    | error e => exact fun _ _ => hopened
    | ok _ =>
      have hcheck : t₃.row.checkBind handler = .ok bound :=
        (hopened.checkBind handler).trans hc
      rw [andThen_ok]
      refine (hx t₃ bound hcheck).mono ?_
      rintro _ t₄ ⟨a, rfl⟩ e he
      cases he

end

/-! ## What is left of the row -/

section

variable {τ : Type} {app : String} {o : Operation} {s s' : Service τ} {t : Turn τ}

/-- Handlers can be bound, and the session of the app is, or would be, a shared one. -/
structure Convertible (s : Service τ) (app : String) : Prop where
  connected : s.link.connected = true
  eventsEnabled : s.options.eventsEnabled = true
  shared : (s.registry.rowOrFresh app).shared = true

/-- The operation marks the row of a shared session as one of an exclusive session. -/
def Converts (s : Service τ) : Operation → Prop
  | .registerEvents app _ => s.Convertible app
  | .startInstance _ app (some _) =>
    s.Convertible app ∧ (s.registry.rowOrFresh app).token = none
  | _ => False

/-- After the operation has failed the row of the app is as before but for its sharing, which is
lost exactly if the operation marks a shared row and the row holds something else. -/
structure KeepsAllButSharing (s : Service τ) (o : Operation) (app : String) (s' : Service τ) :
    Prop where
  provisioning :
    (s'.registry.rowOrFresh app).provisioning = (s.registry.rowOrFresh app).provisioning
  callback : (s'.registry.rowOrFresh app).callback = (s.registry.rowOrFresh app).callback
  token : (s'.registry.rowOrFresh app).token = (s.registry.rowOrFresh app).token
  sharing : (s'.registry.rowOrFresh app).shared ≠ (s.registry.rowOrFresh app).shared ↔
    Converts s o ∧ ((s.registry.rowOrFresh app).provisioning.isSome = true ∨
      (s.registry.rowOrFresh app).token.isSome = true ∨
      (s'.registry.rowOrFresh app).loaded = true)

/-- A row that has come back but for its session. -/
theorem keepsAllButSharing_of_same
    (hsame : (s.registry.rowOrFresh app).Opened (s'.registry.rowOrFresh app))
    (hno : ¬ Converts s o) : KeepsAllButSharing s o app s' where
  provisioning := hsame.congr fun _ _ _ => rfl
  callback := hsame.congr fun _ _ _ => rfl
  token := hsame.congr fun _ _ _ => rfl
  sharing :=
    have hshared := hsame.congr (f := Row.shared) fun _ _ _ => rfl
    iff_of_false (not_not_intro hshared) fun h => hno h.1

theorem keepsAllButSharing_refused (hno : ¬ Converts s o) : KeepsAllButSharing s o app s :=
  keepsAllButSharing_of_same (.refl _) hno

/-- A marked row that is dropped: the next one is a shared one again. -/
theorem keepsAllButSharing_dropped {row : Row}
    (h : (s.registry.rowOrFresh app).marked.Opened row) (hv : row.isVacant = true)
    (hshared : (s.registry.rowOrFresh app).shared = true)
    (hfresh : s'.registry.rowOrFresh app = .fresh app) : KeepsAllButSharing s o app s' := by
  obtain ⟨_, hprovisioning, hcallback, htoken⟩ := Row.isVacant_iff.mp (h.isVacant hv)
  refine ⟨?_, ?_, ?_, ?_⟩ <;> rw [hfresh]
  · exact hprovisioning.symm
  · exact hcallback.symm
  · exact htoken.symm
  · have hp : (s.registry.rowOrFresh app).provisioning = none := hprovisioning
    have ht : (s.registry.rowOrFresh app).token = none := htoken
    rw [hshared, hp, ht]
    refine iff_of_false (not_not_intro rfl) ?_
    rintro ⟨_, hheld | hheld | hheld⟩ <;> cases hheld

/-- A marked row that is kept, because it holds something. -/
theorem keepsAllButSharing_kept (hconverts : Converts s o)
    (hshared : (s.registry.rowOrFresh app).shared = true)
    (hunbound : (s.registry.rowOrFresh app).callback = none)
    (h : (s.registry.rowOrFresh app).marked.Opened (s'.registry.rowOrFresh app))
    (hv : (s'.registry.rowOrFresh app).isVacant = false) : KeepsAllButSharing s o app s' := by
  have hp : (s'.registry.rowOrFresh app).provisioning =
      (s.registry.rowOrFresh app).provisioning := h.congr fun _ _ _ => rfl
  have hc : (s'.registry.rowOrFresh app).callback = (s.registry.rowOrFresh app).callback :=
    h.congr fun _ _ _ => rfl
  have ht : (s'.registry.rowOrFresh app).token = (s.registry.rowOrFresh app).token :=
    h.congr fun _ _ _ => rfl
  have hmarked : (s'.registry.rowOrFresh app).shared = false :=
    h.congr (f := Row.shared) fun _ _ _ => rfl
  refine ⟨hp, hc, ht, iff_of_true ?_ ⟨hconverts, ?_⟩⟩
  · rw [hmarked, hshared]
    exact Bool.false_ne_true
  · have hholds := Registry.holds_of_isVacant_eq_false hv
    rw [hp, hc, ht, hunbound] at hholds
    rcases hholds with hheld | hheld | hheld | hheld
    · exact .inr (.inr hheld)
    · exact .inl hheld
    · cases hheld
    · exact .inr (.inl hheld)

theorem rowOrFresh_settled (hstay : t.row.retiring = false) :
    (s.settled app t).registry.rowOrFresh app =
      if t.row.isVacant then .fresh app else t.row := by
  rw [settled, Registry.rowOrFresh_settle, hstay, Bool.false_or]

variable (hs : s.registry.Sound)
include hs

/-- A failure after which the row has changed at its session only. -/
theorem keepsAllButSharing_of_opened (hocc : s.registry.Occupied) (hno : ¬ Converts s o)
    (h : (s.registry.rowOrFresh app).Opened t.row) :
    KeepsAllButSharing s o app (s.settled app t) := by
  have hstay : t.row.retiring = false :=
    (h.congr (f := Row.retiring) fun _ _ _ => rfl).trans (hs.staying_rowOrFresh app)
  refine keepsAllButSharing_of_same ?_ hno
  rw [rowOrFresh_settled hstay]
  split
  · rename_i hv
    rw [hocc.eq_fresh (h.isVacant hv)]
    exact .refl _
  · exact h

/-- A failure after which the row has been marked and has changed at its session otherwise. -/
theorem keepsAllButSharing_of_marked (hocc : s.registry.Occupied)
    (hbound : (s.registry.rowOrFresh app).callback.isSome = true →
      (s.registry.rowOrFresh app).shared = false)
    (hiff : Converts s o ↔ (s.registry.rowOrFresh app).shared = true)
    (h : (s.registry.rowOrFresh app).marked.Opened t.row) :
    KeepsAllButSharing s o app (s.settled app t) := by
  cases hx : (s.registry.rowOrFresh app).shared with
  | false =>
    rw [Row.marked_of_exclusive hx] at h
    refine keepsAllButSharing_of_opened hs hocc (fun hconverts => ?_) h
    exact Bool.false_ne_true (hx.symm.trans (hiff.mp hconverts))
  | true =>
    have hstay : t.row.retiring = false :=
      (h.congr (f := Row.retiring) fun _ _ _ => rfl).trans (hs.staying_rowOrFresh app)
    have hafter : (s.settled app t).registry.rowOrFresh app =
        if t.row.isVacant then .fresh app else t.row := rowOrFresh_settled hstay
    cases hv : t.row.isVacant with
    | true =>
      rw [if_pos hv] at hafter
      exact keepsAllButSharing_dropped h hv hx hafter
    | false =>
      rw [if_neg (Bool.eq_false_iff.mp hv)] at hafter
      have hunbound : (s.registry.rowOrFresh app).callback = none := by
        refine Option.not_isSome_iff_eq_none.mp fun hb => ?_
        exact Bool.false_ne_true ((hbound hb).symm.trans hx)
      rw [← hafter] at h hv
      exact keepsAllButSharing_kept (hiff.mpr hx) hx hunbound h hv

end

/-! ## The registrations -/

section

variable {τ : Type} {α : Type} {app : String} {o : Operation} {s : Service τ} {handler : Handler}

/-- If the operation has ended with a failure, it has left the row as it was but for its sharing. -/
def Failing (s : Service τ) (o : Operation) (app : String) (r : Except Status α)
    (s' : Service τ) : Prop :=
  ∀ e, r = .error e → KeepsAllButSharing s o app s'

/-- A check that an operation passes if it is to mark a row. -/
theorem Guards.failing {c : Service τ → Bool} {e : Status} {g : Act (Service τ) Unit}
    (hg : Guards c e g) {f : Unit → Act (Service τ) α} (hpass : Converts s o → c s = true)
    (hf : c s = true → Ends (f ()) s (Failing s o app)) :
    Ends (g >>= f) s (Failing s o app) := by
  refine hg.ends (fun hstop _ _ => keepsAllButSharing_refused fun hconverts => ?_) hf
  exact Bool.false_ne_true (hstop.symm.trans (hpass hconverts))

theorem callback_of_checkBind_error {row : Row} {e : Status}
    (h : row.checkBind handler = .error e) : row.callback.isSome = true := by
  cases hc : row.callback with
  | none =>
    rw [Row.checkBind, hc] at h
    cases h
  | some bound => rfl

variable [Transport τ] (hs : s.registry.Sound) (hocc : s.registry.Occupied)
  (hcur : (s.turn app).Current)
  (hbound : (s.registry.rowOrFresh app).callback.isSome = true →
    (s.registry.rowOrFresh app).shared = false)
include hs hocc hcur hbound

/-- Binding a handler in a turn that has come so far that nothing but the requests can fail. -/
theorem failing_bindHandler (hiff : Converts s o ↔ (s.registry.rowOrFresh app).shared = true)
    {bound : Bool} (hc : (s.registry.rowOrFresh app).checkBind handler = .ok bound)
    {x : OnRow τ α} (hx : Commits handler x) :
    Ends (do
      makeExclusive
      ensureLoaded
      subscribe
      x) (s.turn app) fun r t' => Failing s o app r (s.settled app t') :=
  (hcur.ends_bindHandler hc hx).mono fun _ _ h e he =>
    keepsAllButSharing_of_marked hs hocc hbound hiff (h e he)

omit [Transport τ] hcur in
/-- A handler that cannot be bound: another one is. -/
theorem failing_checkBind {e : Status}
    (hc : (s.registry.rowOrFresh app).checkBind handler = .error e)
    (hshared : Converts s o → (s.registry.rowOrFresh app).shared = true)
    (r : Except Status α) : Failing s o app r (s.settled app (s.turn app)) := by
  intro _ _
  refine keepsAllButSharing_of_opened hs hocc (fun hconverts => ?_) (.refl _)
  have hexclusive := hbound (callback_of_checkBind_error hc)
  exact Bool.false_ne_true (hexclusive.symm.trans (hshared hconverts))

theorem failing_registerEvents :
    Ends (registerEvents app handler) s (Failing s (.registerEvents app handler) app) := by
  refine guards_requireEvents.failing (fun h => h.eventsEnabled) fun hon => ?_
  refine guards_requireInit.failing (fun h => h.connected) fun hup => ?_
  rw [ends_onRow, ends_bind, ends_get, andThen_ok]
  cases hc : (s.turn app).row.checkBind handler with
  | error e =>
    exact failing_checkBind (o := .registerEvents app handler) hs hocc hbound hc
      (fun h => h.shared) (.error e)
  | ok bound =>
    cases bound with
    | true => exact fun _ he => nomatch he
    | false =>
      refine failing_bindHandler hs hocc hcur hbound ?_ hc commits_changeRow
      exact ⟨fun h => h.shared, fun hshared => ⟨hup, hon, hshared⟩⟩

theorem failing_startInstance {caller : Caller} {handler : Option Handler} :
    Ends (startInstance caller app handler) s
      (Failing s (.startInstance caller app handler) app) := by
  cases handler with
  | none =>
    refine guards_requireInit.failing nofun fun _ => ?_
    rw [ends_onRow, ends_bind, ends_get, andThen_ok, ends_ite]
    split
    · exact fun _ _ => keepsAllButSharing_of_opened hs hocc id (.refl _)
    rw [ends_bind]
    refine hcur.ends_ensureLoaded.mono fun r t' hopened => ?_
    cases r with
    | error e => exact fun _ _ => keepsAllButSharing_of_opened hs hocc id hopened
    | ok _ => exact fun _ he => nomatch he
  | some handler =>
    refine guards_requireEvents.failing (fun h => h.1.eventsEnabled) fun hon => ?_
    refine guards_requireInit.failing (fun h => h.1.connected) fun hup => ?_
    rw [ends_onRow, ends_bind, ends_get, andThen_ok, ends_ite]
    split
    · rename_i htoken
      refine fun _ _ => keepsAllButSharing_of_opened hs hocc (fun h => ?_) (.refl _)
      have hnone : (s.turn app).row.token = none := h.2
      rw [hnone] at htoken
      cases htoken
    · rename_i htoken
      rw [ends_bind, ends_get, andThen_ok]
      cases hc : (s.turn app).row.checkBind handler with
      | error e =>
        exact failing_checkBind (o := .startInstance caller app (some handler)) hs hocc hbound hc
          (fun h => h.1.shared) (.error e)
      | ok bound =>
        refine failing_bindHandler hs hocc hcur hbound ?_ hc
          (commits_changeRow.issueToken caller.process)
        have hnone : (s.registry.rowOrFresh app).token = none :=
          Option.not_isSome_iff_eq_none.mp htoken
        exact ⟨fun h => h.1.shared, fun hshared => ⟨⟨hup, hon, hshared⟩, hnone⟩⟩

end

/-! ## Reachable states -/

section

variable {s s' : Service Attended} {app : String} {o : Operation}

/-- Every row of a reachable state holds something. -/
theorem Reachable.occupied (h : Reachable s) : s.registry.Occupied := by
  induction h with
  | start apps client options agenda => exact Registry.occupied_of_empty rfl
  | @move s hs m ih =>
    cases m with
    | perform o => exact ih.updated (updated_perform hs.healthy.sound o)
    | poll => exact ih
    | control c => exact ih
  | collect _ ih => exact ih

/-- A row that is missing has no session of an earlier connection either. -/
theorem current_turn (h : ∀ row, s.registry.row? app = some row → row.loaded = true →
    row.openedOn = s.link.epoch) : (s.turn app).Current := by
  intro hl
  cases hrow : s.registry.row? app with
  | none =>
    have hfresh : (s.turn app).row = .fresh app := by
      rw [turn, Registry.rowOrFresh, hrow]
      rfl
    rw [hfresh] at hl
    cases hl
  | some row =>
    have hsame : (s.turn app).row = row := Registry.rowOrFresh_of_row? hrow
    rw [hsame] at hl ⊢
    exact h row hrow hl

/-- A registration that fails leaves the row of its app as it was, a missing one being a fresh one,
unless the row had a session of an earlier connection: the provisioning handle, the handler and the
token are the same, and so is the sharing, unless the row of a shared session was marked as one of
an exclusive session and is kept, because it has a handle, a token or a session. -/
theorem failed_registration (hs : Reachable s) (ho : o.Registers app)
    (hcurrent : ∀ row, s.registry.row? app = some row → row.loaded = true →
      row.openedOn = s.link.epoch)
    {e : Status} (hfail : (perform o).run s = (.error e, s')) :
    KeepsAllButSharing s o app s' := by
  have hcur := current_turn hcurrent
  have hends : Ends (perform o) s (Failing s o app) := by
    cases ho with
    | events handler =>
      exact failing_registerEvents hs.healthy.sound hs.occupied hcur (hs.boundExclusive app)
    | start caller handler =>
      exact failing_startInstance hs.healthy.sound hs.occupied hcur (hs.boundExclusive app)
  unfold Ends at hends
  rw [hfail] at hends
  exact hends e rfl

/-- The device goes off line while a provisioning is active: the handler is not bound, and the row
keeps its handle and the mark. -/
theorem registerEvents_stays_exclusive :
    ∃ s e s', s = run [.perform .init, .perform (.startProvisioning "a"), .control (.offline true)]
        (start ["a"] Guid.nil {} []) ∧
      (registerEvents "a" (.own "h")).run s = (.error e, s') ∧
      (s.registry.rowOrFresh "a").shared = true ∧
      (s'.registry.rowOrFresh "a").provisioning = some 0x1000 ∧
      (s'.registry.rowOrFresh "a").shared = false := by
  obtain ⟨s, hs⟩ : ∃ s, s = run [.perform .init, .perform (.startProvisioning "a"),
      .control (.offline true)] (start ["a"] Guid.nil {} []) := ⟨_, rfl⟩
  have hreach : Reachable s := by
    rw [hs]
    exact run_induction (.start ["a"] Guid.nil {} []) (fun m _ h => h.move m) _
  have hfacts : s.registry.row? "a" = some
        { app := "a", provisioning := some 0x1000, loaded := true, openedOn := 1 } ∧
      s.link.epoch = 1 ∧ s.link.connected = true ∧ s.options.eventsEnabled = true ∧
      ((registerEvents "a" (.own "h")).run s).1.isOk = false := by
    rw [hs]
    decide +kernel
  obtain ⟨hrow, hepoch, hup, hon, hok⟩ := hfacts
  obtain ⟨e, he⟩ := exists_error_of_isOk hok
  have hfail : (registerEvents "a" (.own "h")).run s =
      (.error e, ((registerEvents "a" (.own "h")).run s).2) := Prod.ext he rfl
  have hbefore := Registry.rowOrFresh_of_row? hrow
  have hkeeps := failed_registration hreach (.events (.own "h")) (fun row hrow' _ => by
    obtain rfl := Option.some.inj (hrow.symm.trans hrow')
    exact hepoch.symm) hfail
  have hshared : (s.registry.rowOrFresh "a").shared = true := congrArg Row.shared hbefore
  have hprovisioning : (s.registry.rowOrFresh "a").provisioning = some 0x1000 :=
    congrArg Row.provisioning hbefore
  refine ⟨s, e, _, hs, hfail, hshared, hkeeps.provisioning.trans hprovisioning, ?_⟩
  have hlost := hkeeps.sharing.mpr ⟨⟨hup, hon, hshared⟩, .inl (by rw [hprovisioning]; rfl)⟩
  rw [hshared] at hlost
  exact Bool.eq_false_iff.mpr hlost

end

end Service

end AppletGateway
