import AppletGateway.Proofs.Tasks
import AppletGateway.Proofs.Tokens

/-!
# What an operation does to the row of its app

An operation works on the row of one app. On the way it makes requests about that app, changes what
the row says of the session, and may issue a token; none of this touches the handler of the events.
If it succeeds, it makes at most one change of another kind: it binds or unbinds the handler, or
marks the row to go away. If it fails, it makes none.

`Service.Evolves` is the way so far and `Service.Turned` the whole of it. Every invariant of the
service is checked against their few cases once, and not against the operations one by one.

Results:
* `Service.ends_perform`: every operation other than connecting and tearing down either changes
  nothing or takes one such turn.
-/

namespace AppletGateway

/-- A change of what a row says of the session and of its provisioning. -/
def Row.SessionEdit (r r' : Row) : Prop :=
  ∃ provisioning loaded openedOn shared, r' = { r with
    provisioning := provisioning, loaded := loaded, openedOn := openedOn, shared := shared }

namespace Service

variable {τ : Type} [Transport τ] {α β : Type} {app : String} {t t' : Turn τ}

/-! ## The way of a turn -/

/-- The turn `t'` comes from `t` by requests about the app, changes of what the row says of the
session, and the issue of a token. -/
inductive Evolves (app : String) (t : Turn τ) : Turn τ → Prop
  | refl : Evolves app t t
  | exchange {t' : Turn τ} (h : Evolves app t t') (q : Applet.Request) (hq : q.app = app) :
    Evolves app t { t' with link := ((Link.exchange q).run t'.link).2 }
  | edit {t' : Turn τ} (h : Evolves app t t') {row : Row} (he : t'.row.SessionEdit row) :
    Evolves app t { t' with row := row }
  | issue {t' : Turn τ} (h : Evolves app t t') (owner : ProcessId) :
    Evolves app t ((issueToken owner).run t').2

theorem Evolves.trans {t'' : Turn τ} (h : Evolves app t t') (h' : Evolves app t' t'') :
    Evolves app t t'' := by
  induction h' with
  | refl => exact h
  | exchange _ q hq ih => exact ih.exchange q hq
  | edit _ he ih => exact ih.edit he
  | issue _ owner ih => exact ih.issue owner

/-- What every edit and the issue of a token keep is kept on the way. -/
theorem Evolves.row_eq {γ : Type} (h : Evolves app t t') (view : Row → γ)
    (hedit : ∀ r r' : Row, r.SessionEdit r' → view r' = view r)
    (hissue : ∀ (r : Row) (id : UInt32) (owner : ProcessId),
      view { r with token := some id, owner := some owner } = view r) :
    view t'.row = view t.row := by
  induction h with
  | refl => rfl
  | exchange _ _ _ ih => exact ih
  | edit _ he ih => exact (hedit _ _ he).trans ih
  | @issue t' _ owner ih =>
    refine Eq.trans ?_ ih
    cases htok : t'.row.token with
    | some id => simp [issueToken, Registry.issueToken, htok, StateT.run, ExceptT.run]
    | none => simp [issueToken, Registry.issueToken, htok, StateT.run, ExceptT.run, hissue]

theorem Evolves.row_app (h : Evolves app t t') : t'.row.app = t.row.app :=
  h.row_eq Row.app (fun _ _ ⟨_, _, _, _, he⟩ => by rw [he]) fun _ _ _ => rfl

theorem Evolves.callback (h : Evolves app t t') : t'.row.callback = t.row.callback :=
  h.row_eq Row.callback (fun _ _ ⟨_, _, _, _, he⟩ => by rw [he]) fun _ _ _ => rfl

theorem Evolves.retiring (h : Evolves app t t') : t'.row.retiring = t.row.retiring :=
  h.row_eq Row.retiring (fun _ _ ⟨_, _, _, _, he⟩ => by rw [he]) fun _ _ _ => rfl

/-! ## Steps that stay on the way -/

/-- However the step ends, it has only done what belongs to the way of a turn. -/
def Stays (app : String) (x : OnRow τ α) : Prop :=
  ∀ t, t.row.app = app → Ends x t fun _ t' => Evolves app t t'

theorem Stays.bind {x : OnRow τ α} {f : α → OnRow τ β} (hx : Stays app x)
    (hf : ∀ a, Stays app (f a)) : Stays app (x >>= f) := by
  intro t ht
  rw [ends_bind]
  refine (hx t ht).mono fun r t' h => ?_
  cases r with
  | error e => exact h
  | ok a => exact (hf a t' (h.row_app.trans ht)).mono fun _ _ h' => h.trans h'

theorem stays_get {f : Turn τ → OnRow τ β}
    (hf : ∀ t : Turn τ, t.row.app = app → Stays app (f t)) : Stays app (get >>= f) := by
  intro t ht
  rw [ends_bind]
  exact hf t ht t ht

theorem stays_pure (a : α) : Stays (τ := τ) app (pure a) := fun _ _ => .refl

theorem stays_throw (e : Status) : Stays (τ := τ) (α := α) app (throw e) := fun _ _ => .refl

theorem stays_throw_bind {e : Status} {f : β → OnRow τ α} :
    Stays app (throw e >>= f) := fun _ _ => .refl

theorem stays_ofExcept (x : Except Status α) : Stays (τ := τ) app (ofExcept x) := by
  cases x with
  | ok a => exact stays_pure a
  | error e => exact stays_throw e

theorem stays_ite {c : Prop} [Decidable c] {x y : OnRow τ α} (hx : Stays app x)
    (hy : Stays app y) : Stays app (if c then x else y) := by
  split
  · exact hx
  · exact hy

/-- A request ends as the exchange of the link does. -/
theorem ends_call {q : Applet.Request} {Q : Except Status Applet.Reply → Turn τ → Prop} :
    Ends (call q) t Q = Ends (Link.exchange q) t.link fun r l =>
      Q (r.mapError LinkError.status) { t with link := l } := rfl

theorem stays_call {q : Applet.Request} (hq : q.app = app) : Stays (τ := τ) app (call q) :=
  fun _ _ => Evolves.refl.exchange q hq

theorem stays_modifyRow {change : Row → Row} (h : ∀ r : Row, r.SessionEdit (change r)) :
    Stays (τ := τ) app (modifyRow change) :=
  fun t _ => Evolves.refl.edit (h t.row)

theorem stays_changeRow {change : Row → Except Status Row}
    (h : ∀ r r', change r = .ok r' → r.SessionEdit r') :
    Stays (τ := τ) app (changeRow change) := by
  intro t _
  simp only [changeRow, ends_bind, ends_get, andThen_ok]
  cases hc : change t.row with
  | error e => exact .refl
  | ok row => exact Evolves.refl.edit (h _ _ hc)

theorem stays_issueToken (owner : ProcessId) : Stays (τ := τ) app (issueToken owner) :=
  fun _ _ => Evolves.refl.issue owner

/-- A request made quietly ends well whatever the answer. -/
theorem ends_callQuietly {q : Applet.Request} {Q : Except Status Unit → Turn τ → Prop} :
    Ends (callQuietly q) t Q =
      Q (.ok ()) { t with link := ((Link.exchange q).run t.link).2 } := by
  unfold Ends
  rcases h : (call q).run t with ⟨_ | reply, t'⟩
  all_goals
    have ht : t' = { t with link := ((Link.exchange q).run t.link).2 } := (congrArg Prod.snd h).symm
    rw [← ht]
    simp only [ExceptT.run] at h
    simp only [callQuietly, ExceptT.run, tryCatch, tryCatchThe, MonadExceptOf.tryCatch, bind,
      ExceptT.bind, ExceptT.mk, ExceptT.bindCont, StateT.bind, ExceptT.tryCatch, h]
    rfl

theorem stays_callQuietly {q : Applet.Request} (hq : q.app = app) :
    Stays (τ := τ) app (callQuietly q) :=
  fun _ _ => ends_callQuietly.mpr (Evolves.refl.exchange q hq)

theorem stays_sessionHandle (handle : Option UInt32) :
    Stays (τ := τ) app (sessionHandle handle) := by
  cases handle with
  | none => exact stays_pure _
  | some handle => exact stays_get fun _ _ => (stays_ofExcept _).bind fun _ => stays_pure _

theorem stays_dropStale : Stays (τ := τ) app dropStale :=
  stays_get fun _ _ => stays_ite (stays_modifyRow fun r => ⟨none, false, r.openedOn, r.shared, rfl⟩)
    (stays_pure ())

theorem stays_subscribe : Stays (τ := τ) app subscribe :=
  stays_get fun _ ht => (stays_call (by exact ht)).bind fun _ => stays_ofExcept _

theorem stays_ensureLoaded : Stays (τ := τ) app ensureLoaded := by
  refine stays_dropStale.bind fun _ => stays_get fun t ht => stays_ite (stays_pure ()) ?_
  refine (stays_call (by exact ht)).bind fun _ => (stays_ofExcept _).bind fun _ => ?_
  refine (stays_modifyRow fun r => ⟨r.provisioning, true, t.link.epoch, r.shared, rfl⟩).bind
    fun _ => ?_
  exact stays_ite stays_subscribe (stays_pure ())

theorem stays_closeQuietly : Stays (τ := τ) app closeQuietly := by
  refine stays_get fun t ht => stays_ite ?_ (stays_pure ())
  refine (stays_callQuietly (by exact ht)).bind fun _ => ?_
  exact stays_modifyRow fun r => ⟨r.provisioning, false, r.openedOn, r.shared, rfl⟩

theorem stays_unsubscribeQuietly : Stays (τ := τ) app unsubscribeQuietly :=
  stays_get fun _ ht => stays_ite (stays_callQuietly (by exact ht)) (stays_pure ())

theorem ends_unsubscribeQuietly :
    Ends unsubscribeQuietly t fun r t' => r = .ok () ∧ t'.row = t.row := by
  simp only [unsubscribeQuietly, ends_bind, ends_get, andThen_ok, ends_ite]
  split
  · exact ends_callQuietly.mpr ⟨rfl, rfl⟩
  · exact ⟨rfl, rfl⟩

theorem ends_closeQuietly :
    Ends closeQuietly t fun r t' => r = .ok () ∧ t'.row = { t.row with loaded := false } := by
  simp only [closeQuietly, ends_bind, ends_get, andThen_ok, ends_ite]
  split
  · exact ends_callQuietly.mpr ⟨rfl, rfl⟩
  · rename_i hl
    obtain ⟨row, tokens, link⟩ := t
    obtain ⟨_, _, loaded, _, _, _, _, _, _⟩ := row
    obtain rfl : loaded = false := Bool.eq_false_iff.mpr hl
    exact ⟨rfl, rfl⟩

theorem stays_makeExclusive : Stays (τ := τ) app makeExclusive := by
  have hlast : Stays (τ := τ) app (modifyRow fun r => { r with shared := false }) :=
    stays_modifyRow fun r => ⟨r.provisioning, r.loaded, r.openedOn, false, rfl⟩
  exact stays_get fun _ _ => stays_ite (stays_closeQuietly.bind fun _ => hlast) hlast

/-! ## The end of a turn -/

/-- The change that an operation makes to the row once it has succeeded. -/
def finish : Operation → Row → Row → Prop
  | .uninstall _, r, r' | .stopInstance .., r, r' => r' = r.retire
  | .registerEvents _ h, r, r' | .startInstance _ _ (some h), r, r' => r.bind h = .ok r'
  | .unregisterEvents _, r, r' => r' = r.unbind
  | _, r, r' => r' = r

/-- The whole of a turn: the way, and in case of success the last change; a token may be issued
after it. -/
def Turned (o : Operation) (app : String) (t : Turn τ) : Except Status α → Turn τ → Prop
  | .error _, t' => Evolves app t t'
  | .ok _, t' => ∃ t₁ row, Evolves app t t₁ ∧ finish o t₁.row row ∧
      Evolves app { t₁ with row := row } t'

/-- However the step ends, it is the rest of a turn of `o`. -/
def Turns (o : Operation) (app : String) (x : OnRow τ α) : Prop :=
  ∀ t, t.row.app = app → Ends x t (Turned o app t)

variable {o : Operation}

theorem Evolves.turned {t'' : Turn τ} {r : Except Status α} (h : Evolves app t t')
    (h' : Turned o app t' r t'') : Turned o app t r t'' := by
  cases r with
  | error e => exact h.trans h'
  | ok a =>
    obtain ⟨t₁, row, h₁, hrow, h₂⟩ := h'
    exact ⟨t₁, row, h.trans h₁, hrow, h₂⟩

theorem Stays.turns {x : OnRow τ α} {f : α → OnRow τ β} (hx : Stays app x)
    (hf : ∀ a, Turns o app (f a)) : Turns o app (x >>= f) := by
  intro t ht
  rw [ends_bind]
  refine (hx t ht).mono fun r t' h => ?_
  cases r with
  | error e => exact h
  | ok a => exact (hf a t' (h.row_app.trans ht)).mono fun _ _ h' => h.turned h'

/-- An operation without a last change only goes its way. -/
theorem Stays.turns_of_finish {x : OnRow τ α} (hx : Stays app x) (ho : ∀ row, finish o row row) :
    Turns o app x := by
  intro t ht
  refine (hx t ht).mono fun r t' h => ?_
  cases r with
  | error e => exact h
  | ok a => exact ⟨t', t'.row, h, ho _, .refl⟩

theorem turns_get {f : Turn τ → OnRow τ β}
    (hf : ∀ t : Turn τ, t.row.app = app → Ends (f t) t (Turned o app t)) :
    Turns o app (get >>= f) := by
  intro t ht
  rw [ends_bind]
  exact hf t ht

theorem turns_modifyRow {change : Row → Row} (h : ∀ r, finish o r (change r)) :
    Turns (τ := τ) o app (modifyRow change) :=
  fun t _ => ⟨t, change t.row, .refl, h t.row, .refl⟩

theorem turns_changeRow {change : Row → Except Status Row}
    (h : ∀ r r', change r = .ok r' → finish o r r') :
    Turns (τ := τ) o app (changeRow change) := by
  intro t _
  simp only [changeRow, ends_bind, ends_get, andThen_ok]
  cases hc : change t.row with
  | error e => exact .refl
  | ok row => exact ⟨t, row, .refl, h _ _ hc, .refl⟩

/-- A token may be issued after the last change. -/
theorem Turns.bind_issueToken {x : OnRow τ α} (hx : Turns o app x) (owner : ProcessId) :
    Turns o app (x >>= fun _ => issueToken owner) := by
  intro t ht
  rw [ends_bind]
  refine (hx t ht).mono fun r t' h => ?_
  cases r with
  | error e => exact h
  | ok a =>
    obtain ⟨t₁, row, h₁, hrow, h₂⟩ := h
    exact ⟨t₁, row, h₁, hrow, h₂.issue owner⟩

/-! ## The operations -/

/-- How an operation other than connecting and tearing down can end. -/
inductive Performed (o : Operation) (s : Service τ) : Except Status α → Service τ → Prop
  /-- It is refused before anything is done. -/
  | refused (e : Status) : Performed o s (.error e) s
  /-- There is nothing to do. -/
  | idle (a : α) (h : Idle s o) : Performed o s (.ok a) s
  /-- It has taken a turn. -/
  | turn {app : String} {r : Except Status α} {t : Turn τ} (htarget : target s o = some app)
    (h : Turned o app (s.turn app) r t) : Performed o s r (s.settled app t)

variable {s : Service τ}

theorem checkBind_of_none {r : Row} (hb : r.callback = none) (h : Handler) :
    r.checkBind h = .ok false := by
  rw [Row.checkBind, hb]

theorem checkBind_of_some {r : Row} {bound : Handler} (hb : r.callback = some bound)
    (h : Handler) :
    r.checkBind h = if bound = h then .ok true else .error .alreadyRegistered := by
  rw [Row.checkBind, hb]

/-- A row to which a handler is bound already is bound by binding it. -/
theorem bind_of_checkBind {r : Row} {h : Handler} (hc : r.checkBind h = .ok true) :
    r.bind h = .ok r := by
  unfold Row.bind
  rw [hc]
  rfl

omit [Transport τ] in
theorem Inquiry.finish {handle : Option UInt32} {request : UInt32 → Applet.Request}
    {read : Applet.Reply → Except Status o.Answer} (h : Inquiry o app handle request read)
    (row : Row) : finish o row row := by
  cases h <;> rfl

/-- Binding a handler: the session is made an exclusive one first. -/
theorem turns_exclusively {x : OnRow τ α} (hx : Turns o app x) :
    Turns o app (do
      makeExclusive
      ensureLoaded
      subscribe
      x) :=
  stays_makeExclusive.turns fun _ => stays_ensureLoaded.turns fun _ => stays_subscribe.turns
    fun _ => hx

/-- A task is a turn on the row of the app. -/
theorem Task.turns {x : OnRow τ o.Answer} (h : Task o app x) : Turns o app x := by
  cases h with
  | inquiry h =>
    refine Stays.turns_of_finish ?_ h.finish
    exact (stays_sessionHandle _).bind fun id => stays_ensureLoaded.bind fun _ =>
      (stays_call (h.request_app id)).bind fun _ => stays_ofExcept _
  | startProvisioning =>
    refine Stays.turns_of_finish ?_ fun _ => by rfl
    refine stays_get fun t _ => stays_ite stays_throw_bind ?_
    refine stays_ensureLoaded.bind fun _ => (stays_call (by rfl)).bind fun _ => ?_
    refine (stays_ofExcept _).bind fun handle => Stays.bind ?_ fun _ => stays_pure handle
    refine stays_changeRow fun r r' hr => ?_
    unfold Row.beginProvisioning at hr
    split at hr
    · cases hr
    · obtain rfl := Except.ok.inj hr
      exact ⟨some handle, r.loaded, r.openedOn, r.shared, rfl⟩
  | endProvisioning _ _ capacity =>
    refine Stays.turns_of_finish ?_ fun _ => by rfl
    refine stays_get fun t _ => (stays_ofExcept _).bind fun _ => ?_
    refine (stays_call (by rfl)).bind fun reply => ?_
    have hend : Stays (τ := τ) app (modifyRow Row.endProvisioning) :=
      stays_modifyRow fun r => ⟨none, r.loaded, r.openedOn, r.shared, rfl⟩
    rcases reply.asData capacity with e | (token | required)
    · exact stays_ite (hend.bind fun _ => stays_throw e) (stays_throw e)
    · exact hend.bind fun _ => stays_pure _
    · exact stays_pure _
  | install =>
    refine Stays.turns_of_finish ?_ fun _ => by rfl
    exact (stays_call (by rfl)).bind fun _ => (stays_ofExcept _).bind fun _ => stays_ensureLoaded
  | uninstall =>
    refine stays_unsubscribeQuietly.turns fun _ => stays_closeQuietly.turns fun _ => ?_
    exact (stays_call (by rfl)).turns fun _ => (stays_ofExcept _).turns fun _ =>
      turns_modifyRow fun _ => by rfl
  | appInstance =>
    refine Stays.turns_of_finish ?_ fun _ => by rfl
    refine stays_get fun t _ => stays_ite stays_throw_bind ?_
    exact (stays_issueToken _).bind fun _ => stays_pure _
  | registerEvents _ h =>
    refine turns_get fun t ht => ?_
    cases hc : t.row.checkBind h with
    | error e => exact .refl
    | ok bound =>
      cases bound with
      | true => exact ⟨t, t.row, .refl, bind_of_checkBind hc, .refl⟩
      | false => exact turns_exclusively (turns_changeRow fun _ _ h => by exact h) t ht
  | unregisterEvents =>
    exact stays_unsubscribeQuietly.turns fun _ => turns_modifyRow fun _ => by rfl
  | startInstance =>
    refine Stays.turns_of_finish ?_ fun _ => by rfl
    refine stays_get fun t _ => stays_ite stays_throw_bind ?_
    exact stays_ensureLoaded.bind fun _ => stays_issueToken _
  | startListening caller _ h =>
    refine turns_get fun t ht => ends_reject .refl fun _ => ?_
    refine (turns_get fun t' ht' => ?_) t ht
    cases hc : t'.row.checkBind h with
    | error e => exact .refl
    | ok _ =>
      have hlast : Turns (.startInstance caller app (some h)) app (do
          changeRow (Row.bind h)
          issueToken caller.process : OnRow τ UInt32) :=
        (turns_changeRow fun _ _ h => by exact h).bind_issueToken _
      exact turns_exclusively hlast t' ht'
  | stopInstance =>
    refine turns_get fun t ht => ends_reject .refl fun _ => ?_
    exact (stays_unsubscribeQuietly.turns fun _ => stays_closeQuietly.turns fun _ =>
      turns_modifyRow fun _ => by rfl) t ht

/-- Every operation other than connecting and tearing down is refused, has nothing to do, or takes a
turn on the row of its app. -/
theorem ends_perform (hs : s.registry.Sound) (hi : o ≠ .init) (hd : o ≠ .deinit) :
    Ends (perform o) s (Performed o s) :=
  ends_perform_of_tasks hi hd (fun e _ => .refused e) Performed.idle fun app _ ha h =>
    .turn ha.target (h.turns (s.turn app) (hs.app_rowOrFresh app))

/-! ## The registry stays sound -/

theorem Evolves.focusSound {r : Registry} (h : Evolves app t t')
    (hf : Registry.Focus.Sound r app ⟨t.row, t.tokens⟩) :
    Registry.Focus.Sound r app ⟨t'.row, t'.tokens⟩ := by
  induction h with
  | refl => exact hf
  | exchange _ _ _ ih => exact ih
  | edit _ he ih =>
    obtain ⟨_, _, _, _, rfl⟩ := he
    exact ih.withRow rfl rfl
  | issue _ owner ih => exact ih.issueToken owner

/-- The last change keeps the name and the token of the row, and its owner. -/
theorem finish_keeps {r r' : Row} (h : finish o r r') :
    r'.app = r.app ∧ r'.token = r.token ∧ r'.owner = r.owner := by
  have hbind : ∀ {h : Handler}, r.bind h = .ok r' →
      r'.app = r.app ∧ r'.token = r.token ∧ r'.owner = r.owner := by
    intro h hb
    unfold Row.bind at hb
    cases hc : r.checkBind h with
    | error e =>
      rw [hc] at hb
      cases hb
    | ok bound =>
      rw [hc] at hb
      cases bound with
      | true =>
        obtain rfl := Except.ok.inj hb
        exact ⟨rfl, rfl, rfl⟩
      | false =>
        obtain rfl := Except.ok.inj hb
        exact ⟨rfl, rfl, rfl⟩
  cases o with
  | registerEvents app h => exact hbind h
  | startInstance caller app handler =>
    cases handler with
    | none =>
      obtain rfl : r' = r := h
      exact ⟨rfl, rfl, rfl⟩
    | some _ => exact hbind h
  | _ =>
    cases h
    exact ⟨rfl, rfl, rfl⟩

theorem Turned.focusSound {r : Registry} {res : Except Status α} (h : Turned o app t res t')
    (hf : Registry.Focus.Sound r app ⟨t.row, t.tokens⟩) :
    Registry.Focus.Sound r app ⟨t'.row, t'.tokens⟩ := by
  cases res with
  | error e => exact Evolves.focusSound h hf
  | ok a =>
    obtain ⟨t₁, row, h₁, hrow, h₂⟩ := h
    obtain ⟨happ, htok, _⟩ := finish_keeps hrow
    exact h₂.focusSound ((h₁.focusSound hf).withRow happ htok)

theorem Performed.sound {s' : Service τ} {r : Except Status α} (h : Performed o s r s')
    (hs : s.registry.Sound) : s'.registry.Sound := by
  cases h with
  | refused e => exact hs
  | idle a _ => exact hs
  | @turn app t r htarget h => exact hs.settle (h.focusSound (hs.focus app))

/-- Every operation keeps the registry sound. -/
theorem sound_perform (hs : s.registry.Sound) (o : Operation) :
    Ends (perform o) s fun _ s' => s'.registry.Sound := by
  by_cases hi : o = .init
  · subst hi
    exact hs
  by_cases hd : o = .deinit
  · subst hd
    show ((deinit (τ := τ)).run s).2.registry.Sound
    simp only [deinit, ExceptT.run]
    split
    · exact Registry.sound_drain _
    · exact hs
  exact (ends_perform hs hi hd).mono fun _ _ h => h.sound hs

/-! ## What is issued -/

theorem Evolves.issued (h : Evolves app t t') (ht : t.row.app = app) :
    Registry.Issued app ⟨t.row, t.tokens⟩ ⟨t'.row, t'.tokens⟩ := by
  induction h with
  | refl => exact .same rfl rfl rfl
  | exchange _ _ _ ih => exact ih
  | edit _ he ih =>
    obtain ⟨_, _, _, _, rfl⟩ := he
    exact ih.trans (.same rfl rfl rfl)
  | @issue t' h owner ih =>
    exact ih.trans (Registry.issued_issueToken owner (h.row_app.trans ht))

/-- A turn issues one token at most. -/
theorem Turned.issued {r : Except Status α} (h : Turned o app t r t') (ht : t.row.app = app) :
    Registry.Issued app ⟨t.row, t.tokens⟩ ⟨t'.row, t'.tokens⟩ := by
  cases r with
  | error e => exact Evolves.issued h ht
  | ok a =>
    obtain ⟨t₁, row, h₁, hrow, h₂⟩ := h
    obtain ⟨happ, htok, howner⟩ := finish_keeps hrow
    have hname : row.app = app := happ.trans (h₁.row_app.trans ht)
    have hlast : Registry.Issued app ⟨t₁.row, t₁.tokens⟩ ⟨row, t₁.tokens⟩ := .same htok howner rfl
    exact ((h₁.issued ht).trans hlast).trans (h₂.issued hname)

end Service

end AppletGateway
