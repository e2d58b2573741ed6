import AppletGateway.Proofs.Conversations
import AppletGateway.Proofs.Turns

/-!
# The course of an operation

What an operation does to the row of its app and what it asks the co-processor, in the order of the
requests. Of the row it takes little into account: a step either makes the row say less of the
session, or has the answer that bears the row out. There are three steps of the second kind. A
session is opened and the row says so; it is opened again and subscribed to again, because a handler
is bound; a handler is bound once the subscription has been answered. Everything else leaves the row
alone, and a change that says less may as well be made ahead of a request.

An operation that is told no at the second of two such requests stops there. What it leaves behind
is not the end of a course but a cut.

Results:
* `Service.ends_goes`: every operation other than connecting and tearing down does nothing, takes a
  course, or fails at a cut.
-/

namespace AppletGateway

open Applet (noHandle)
open Link (Talk Converses)

/-- An operation on an app asks for something about this app, and besides the request that it is
there to make for sessions and subscriptions only. -/
structure Operation.Asks (o : Operation) (app : String) (q : Applet.Request) : Prop where
  app : q.app = app
  own : q.attends = true ∨ o.request? = some q

theorem Operation.Asks.seats {o : Operation} {app : String} {q : Applet.Request}
    (h : o.Asks app q) : q.seats = true ∨ o.request? = some q :=
  h.own.imp_left Applet.Request.seats_of_attends

/-- The row `r'` says no more of the session and of the handler than `r` does, and its session does
not become a shared one. -/
structure Row.SaysLess (r r' : Row) : Prop where
  app : r'.app = r.app
  callback : r'.callback = r.callback ∨ r'.callback = none
  session : r'.loaded = false ∨
    (r'.loaded = r.loaded ∧ r'.openedOn = r.openedOn ∧ r'.shared = r.shared)
  sharing : r.shared = false → r'.shared = false

/-- The answer to the request does not bear on what the row says. -/
def Row.Indifferent (r : Row) (q : Applet.Request) : Prop :=
  q.seats = false ∨ (r.loaded = false ∧ q ≠ .subscribe r.app) ∨
    (r.callback = none ∧ q = .unsubscribe r.app)

namespace Service

variable {τ : Type} [Transport τ] {α β : Type} {o : Operation} {app : String} {t t' t'' : Turn τ}

/-! ## Requests within a turn -/

/-- What a request is answered. -/
def Turn.answer (t : Turn τ) (q : Applet.Request) : Except LinkError Applet.Reply :=
  ((Link.exchange q).run t.link).1

/-- The turn after a request. -/
def Turn.after (t : Turn τ) (q : Applet.Request) : Turn τ :=
  { t with link := ((Link.exchange q).run t.link).2 }

/-- The request for the session that the row is to have. -/
def Turn.opening (t : Turn τ) : Applet.Request := .openSession t.row.app t.row.shared

/-- The turn after this request, if it was answered as done. -/
def Turn.opened (t : Turn τ) : Turn τ :=
  { t.after t.opening with row := { t.row with loaded := true, openedOn := t.link.epoch } }

/-! ## Courses -/

/-- The turn `t'` comes from `t` by a course of the operation on the row of the app. -/
inductive Course (o : Operation) (app : String) (t : Turn τ) : Turn τ → Prop
  | start : Course o app t t
  /-- The row says less; a token may be issued. -/
  | edit {t' : Turn τ} (h : Course o app t t') {row : Row} (he : t'.row.SaysLess row)
    (tokens : Tokens) : Course o app t { t' with row := row, tokens := tokens }
  /-- A request that does not bear on the row. -/
  | ask {t' : Turn τ} (h : Course o app t t') {q : Applet.Request} (hq : o.Asks app q)
    (hi : t'.row.Indifferent q) : Course o app t (t'.after q)
  /-- A session is opened. -/
  | opened {t' : Turn τ} (h : Course o app t t') (hl : t'.row.loaded = false)
    (hb : t'.row.callback = none) (hd : t'.answer t'.opening = .ok .done) :
    Course o app t t'.opened
  /-- A session is opened and its events are subscribed to again. -/
  | reopened {t' : Turn τ} (h : Course o app t t') (hl : t'.row.loaded = false)
    (hb : t'.row.callback.isSome) (hd : t'.answer t'.opening = .ok .done)
    (hs : t'.opened.answer (.subscribe app) = .ok .done) :
    Course o app t (t'.opened.after (.subscribe app))
  /-- A handler is bound to the events of an exclusive session. -/
  | bound {t' : Turn τ} (h : Course o app t t') {handler : Handler} {row : Row}
    (ho : o.handler? = some handler) (hx : t'.row.shared = false)
    (hs : t'.answer (.subscribe app) = .ok .done) (hb : t'.row.bind handler = .ok row) :
    Course o app t { t'.after (.subscribe app) with row := row }

/-- The turn `t'` comes from `t` by a course that breaks off because a subscription was not answered
as done. -/
inductive Cut (o : Operation) (app : String) (t : Turn τ) : Turn τ → Prop
  /-- The session has been opened again, but its events are not subscribed to. -/
  | reopening {t' : Turn τ} (h : Course o app t t') (hl : t'.row.loaded = false)
    (hb : t'.row.callback.isSome) (hd : t'.answer t'.opening = .ok .done)
    (hs : t'.opened.answer (.subscribe app) ≠ .ok .done) :
    Cut o app t (t'.opened.after (.subscribe app))
  /-- A handler was to be bound. -/
  | binding {t' : Turn τ} (h : Course o app t t') {handler : Handler}
    (ho : o.handler? = some handler) (hl : t'.row.loaded = true)
    (hs : t'.answer (.subscribe app) ≠ .ok .done) : Cut o app t (t'.after (.subscribe app))

theorem Course.trans (h : Course o app t t') (h' : Course o app t' t'') : Course o app t t'' := by
  induction h' with
  | start => exact h
  | edit _ he tokens ih => exact ih.edit he tokens
  | ask _ hq hi ih => exact ih.ask hq hi
  | opened _ hl hb hd ih => exact ih.opened hl hb hd
  | reopened _ hl hb hd hs ih => exact ih.reopened hl hb hd hs
  | bound _ ho hx hs hb ih => exact ih.bound ho hx hs hb

theorem Course.cut (h : Course o app t t') (h' : Cut o app t' t'') : Cut o app t t'' := by
  cases h' with
  | reopening h' hl hb hd hs => exact .reopening (h.trans h') hl hb hd hs
  | binding h' ho hl hs => exact .binding (h.trans h') ho hl hs

/-- Binding a handler changes the handler and the sharing at most. -/
theorem bind_cases {r r' : Row} {handler : Handler} (h : r.bind handler = .ok r') :
    r' = r ∨ r' = { r with callback := some handler, shared := false } := by
  unfold Row.bind at h
  cases hc : r.checkBind handler with
  | error e =>
    rw [hc] at h
    cases h
  | ok bound =>
    rw [hc] at h
    cases bound with
    | true => exact .inl (Except.ok.inj h).symm
    | false => exact .inr (Except.ok.inj h).symm

theorem Course.row_app (h : Course o app t t') : t'.row.app = t.row.app := by
  induction h with
  | start => rfl
  | edit _ he _ ih => exact he.app.trans ih
  | ask _ _ _ ih => exact ih
  | opened _ _ _ _ ih => exact ih
  | reopened _ _ _ _ _ ih => exact ih
  | bound _ _ _ _ hb ih => rcases bind_cases hb with rfl | rfl <;> exact ih

/-! ## The requests of a course -/

/-- The link has come from `l` to `l'` by requests that the operation on the app asks for. -/
def Conversed (o : Operation) (app : String) (l l' : Link τ) : Prop :=
  ∃ talk, Converses l talk l' ∧ ∀ e ∈ talk, o.Asks app e.1

theorem Conversed.after {l : Link τ} (h : Conversed o app l t.link) {q : Applet.Request}
    (hq : o.Asks app q) : Conversed o app l (t.after q).link := by
  obtain ⟨talk, hc, hasks⟩ := h
  refine ⟨_, hc.append (.single t.link q), fun e he => ?_⟩
  rcases List.mem_append.mp he with he | he
  · exact hasks e he
  · obtain rfl := List.mem_singleton.mp he
    exact hq

omit [Transport τ] in
theorem asks_opening (ht : t.row.app = app) : o.Asks app t.opening := ⟨ht, .inl rfl⟩

theorem asks_subscribe : o.Asks app (.subscribe app) := ⟨rfl, .inl rfl⟩

theorem Course.conversed (h : Course o app t t') (ht : t.row.app = app) :
    Conversed o app t.link t'.link := by
  induction h with
  | start => exact ⟨[], .nil _, nofun⟩
  | edit _ _ _ ih => exact ih
  | ask _ hq _ ih => exact ih.after hq
  | opened h _ _ _ ih => exact ih.after (asks_opening (h.row_app.trans ht))
  | @reopened t' h _ _ _ _ ih =>
    have hopened : Conversed o app t.link t'.opened.link :=
      ih.after (asks_opening (h.row_app.trans ht))
    exact hopened.after asks_subscribe
  | bound _ _ _ _ _ ih => exact ih.after asks_subscribe

theorem Cut.conversed (h : Cut o app t t') (ht : t.row.app = app) :
    Conversed o app t.link t'.link := by
  cases h with
  | @reopening t' h _ _ _ _ =>
    have hopened : Conversed o app t.link t'.opened.link :=
      (h.conversed ht).after (asks_opening (h.row_app.trans ht))
    exact hopened.after asks_subscribe
  | binding h _ _ _ => exact (h.conversed ht).after asks_subscribe

/-! ## Steps that follow a course -/

/-- How a step can end that follows a course: if it fails, then maybe at a cut. -/
def Ended (o : Operation) (app : String) (t : Turn τ) : Except Status α → Turn τ → Prop
  | .ok _, t' => Course o app t t'
  | .error _, t' => Course o app t t' ∨ Cut o app t t'

theorem Course.ended (h : Course o app t t') (r : Except Status α) : Ended o app t r t' := by
  cases r with
  | error e => exact .inl h
  | ok a => exact h

theorem Cut.ended (h : Cut o app t t') (e : Status) :
    Ended (α := α) o app t (.error e) t' := .inr h

theorem Course.lift (h : Course o app t t') {r : Except Status α}
    (h' : Ended o app t' r t'') : Ended o app t r t'' := by
  cases r with
  | error e =>
    rcases h' with hcourse | hcut
    · exact (h.trans hcourse).ended _
    · exact (h.cut hcut).ended e
  | ok a => exact h.trans h'

theorem Ended.conversed {r : Except Status α} (h : Ended o app t r t') (ht : t.row.app = app) :
    Conversed o app t.link t'.link := by
  cases r with
  | error e =>
    rcases h with h | h
    · exact h.conversed ht
    · exact h.conversed ht
  | ok a => exact Course.conversed h ht

/-- However the step ends, it has followed a course. -/
def Follows (o : Operation) (app : String) (x : OnRow τ α) : Prop :=
  ∀ t, t.row.app = app → Ends x t (Ended o app t)

/-- Two steps in sequence, the second of which may use how the first has ended. -/
theorem ends_ended_bind {x : OnRow τ α} {f : α → OnRow τ β} {P : α → Turn τ → Prop}
    (hx : Ends x t fun r t' => Ended o app t r t' ∧ ∀ a, r = .ok a → P a t')
    (hf : ∀ a t', Course o app t t' → P a t' → Ends (f a) t' (Ended o app t')) :
    Ends (x >>= f) t (Ended o app t) := by
  rw [ends_bind]
  refine hx.mono fun r t' ⟨h, hp⟩ => ?_
  cases r with
  | error e => exact h
  | ok a =>
    exact (hf a t' h (hp a rfl)).mono fun _ _ h' => Course.lift h h'

theorem Follows.after {x : OnRow τ α} {f : α → OnRow τ β} (hf : ∀ a, Follows o app (f a))
    (ht : t.row.app = app) (hx : Ends x t (Ended o app t)) :
    Ends (x >>= f) t (Ended o app t) :=
  ends_ended_bind (P := fun _ _ => True) (hx.mono fun _ _ h => ⟨h, fun _ _ => trivial⟩)
    fun a t' hcourse _ => hf a t' (hcourse.row_app.trans ht)

theorem Follows.bind {x : OnRow τ α} {f : α → OnRow τ β} (hx : Follows o app x)
    (hf : ∀ a, Follows o app (f a)) : Follows o app (x >>= f) :=
  fun t ht => Follows.after hf ht (hx t ht)

theorem follows_get {f : Turn τ → OnRow τ β}
    (hf : ∀ t : Turn τ, t.row.app = app → Ends (f t) t (Ended o app t)) :
    Follows o app (get >>= f) := by
  intro t ht
  rw [ends_bind]
  exact hf t ht

theorem follows_pure (a : α) : Follows (τ := τ) o app (pure a) := fun _ _ => Course.start.ended _

theorem follows_throw (e : Status) : Follows (τ := τ) (α := α) o app (throw e) :=
  fun _ _ => Course.start.ended _

theorem follows_throw_bind {e : Status} {f : β → OnRow τ α} : Follows o app (throw e >>= f) :=
  fun _ _ => Course.start.ended _

theorem follows_ofExcept (x : Except Status α) : Follows (τ := τ) o app (ofExcept x) := by
  cases x with
  | ok a => exact follows_pure a
  | error e => exact follows_throw e

theorem follows_ite {c : Prop} [Decidable c] {x y : OnRow τ α} (hx : Follows o app x)
    (hy : Follows o app y) : Follows o app (if c then x else y) := by
  split
  · exact hx
  · exact hy

/-- A row that says the same of the session says no more of it. -/
theorem saysLess_of_same {r r' : Row} (happ : r'.app = r.app) (hb : r'.callback = r.callback)
    (hl : r'.loaded = r.loaded) (ho : r'.openedOn = r.openedOn) (hs : r'.shared = r.shared) :
    r.SaysLess r' := ⟨happ, .inl hb, .inr ⟨hl, ho, hs⟩, hs.trans⟩

theorem follows_modifyRow {change : Row → Row} (h : ∀ r : Row, r.SaysLess (change r)) :
    Follows (τ := τ) o app (modifyRow change) :=
  fun t _ => (Course.start.edit (h t.row) t.tokens).ended _

theorem follows_changeRow {change : Row → Except Status Row}
    (h : ∀ r r', change r = .ok r' → r.SaysLess r') :
    Follows (τ := τ) o app (changeRow change) := by
  intro t _
  rw [changeRow, ends_bind, ends_get, andThen_ok]
  cases hc : change t.row with
  | error e => exact Course.start.ended _
  | ok row => exact (Course.start.edit (h _ _ hc) t.tokens).ended _

theorem follows_issueToken (owner : ProcessId) : Follows (τ := τ) o app (issueToken owner) := by
  intro t _
  have hrow : t.row.SaysLess ((issueToken owner).run t).2.row := by
    cases htok : t.row.token with
    | some id =>
      simp only [issueToken, Registry.issueToken, htok, StateT.run, ExceptT.run]
      exact saysLess_of_same rfl rfl rfl rfl rfl
    | none =>
      simp only [issueToken, Registry.issueToken, htok, StateT.run, ExceptT.run]
      exact saysLess_of_same rfl rfl rfl rfl rfl
  exact (Course.start.edit hrow ((issueToken owner).run t).2.tokens).ended _

/-- The request that the operation is there to make. -/
theorem follows_call {q : Applet.Request} (hq : q.app = app) (ho : o.request? = some q)
    (hs : q.seats = false) : Follows (τ := τ) o app (call q) :=
  fun _ _ => (Course.start.ask ⟨hq, .inr ho⟩ (.inl hs)).ended _

/-! ## Requests that are to be answered as done -/

/-- The step goes on with the answer "done" only. -/
def Insists (f : Applet.Reply → OnRow τ α) : Prop :=
  ∀ reply t, reply ≠ .done → ∃ e, (f reply).run t = (.error e, t)

omit [Transport τ] in
theorem insists_asDone : Insists fun reply => (ofExcept reply.asDone : OnRow τ Unit) := by
  intro reply t h
  cases reply with
  | done => exact absurd rfl h
  | _ => exact ⟨_, rfl⟩

omit [Transport τ] in
theorem insists_asDone_bind (f : Unit → OnRow τ α) :
    Insists fun reply => ofExcept reply.asDone >>= f := by
  intro reply t h
  cases reply with
  | done => exact absurd rfl h
  | _ => exact ⟨_, rfl⟩

/-- A request, and what follows its answer. -/
theorem ends_call_bind {f : Applet.Reply → OnRow τ α} {q : Applet.Request}
    {Q : Except Status α → Turn τ → Prop}
    (hno : ∀ e, t.answer q = .error e → Q (.error e.status) (t.after q))
    (hyes : ∀ reply, t.answer q = .ok reply → Ends (f reply) (t.after q) Q) :
    Ends (call q >>= f) t Q := by
  rw [ends_bind, ends_call]
  show andThen f Q ((t.answer q).mapError LinkError.status) (t.after q)
  cases ha : t.answer q with
  | error e => exact hno e ha
  | ok reply => exact hyes reply ha

/-- A request that is to be answered as done. -/
theorem Insists.ends {f : Applet.Reply → OnRow τ α} (hf : Insists f) {q : Applet.Request}
    {Q : Except Status α → Turn τ → Prop}
    (hno : t.answer q ≠ .ok .done → ∀ e, Q (.error e) (t.after q))
    (hyes : t.answer q = .ok .done → Ends (f .done) (t.after q) Q) :
    Ends (call q >>= f) t Q := by
  refine ends_call_bind (fun e ha => hno (by rw [ha]; exact nofun) _) fun reply ha => ?_
  by_cases hd : reply = .done
  · subst hd
    exact hyes ha
  · obtain ⟨e, he⟩ := hf reply (t.after q) hd
    unfold Ends
    rw [he]
    refine hno (fun h => hd ?_) e
    exact Except.ok.inj (ha.symm.trans h)

/-! ## Opening and closing sessions -/

omit [Transport τ] in
theorem ends_dropStale_eq {Q : Except Status Unit → Turn τ → Prop} : Ends dropStale t Q =
    Q (.ok ()) { t with row := if t.row.loaded ∧ t.row.openedOn ≠ t.link.epoch then
      { t.row with loaded := false }.endProvisioning else t.row } := by
  simp only [dropStale, modifyRow, ends_bind, ends_get, andThen_ok, ends_ite, ends_modify,
    ends_pure]
  split <;> rfl

omit [Transport τ] in
theorem ends_dropStale : Ends dropStale t fun r t' => r = .ok () ∧
    t' = { t with row := if t.row.loaded ∧ t.row.openedOn ≠ t.link.epoch then
      { t.row with loaded := false }.endProvisioning else t.row } := by
  rw [ends_dropStale_eq]
  exact ⟨rfl, rfl⟩

/-- Opening a session follows a course. If it succeeds the row says so, and neither the handler nor
the sharing has changed. -/
theorem ends_ensureLoaded (ht : t.row.app = app) : Ends ensureLoaded t fun r t' =>
    Ended o app t r t' ∧ ∀ a, r = .ok a → t'.row.loaded = true ∧ t'.row.shared = t.row.shared ∧
      t'.row.callback = t.row.callback := by
  simp only [ensureLoaded, ends_bind]
  refine ends_dropStale.mono fun r t₁ ⟨hr, h₁⟩ => ?_
  subst hr
  obtain ⟨hcourse, happ, hshared, hcallback⟩ : Course o app t t₁ ∧ t₁.row.app = app ∧
      t₁.row.shared = t.row.shared ∧ t₁.row.callback = t.row.callback := by
    subst h₁
    refine ⟨Course.start.edit ?_ t.tokens, ?_⟩
    · split
      · exact ⟨rfl, .inl rfl, .inl rfl, id⟩
      · exact saysLess_of_same rfl rfl rfl rfl rfl
    · dsimp only
      split <;> exact ⟨ht, rfl, rfl⟩
  rw [andThen_ok, ends_bind, ends_get, andThen_ok, ends_ite]
  split
  · rename_i hl
    exact ⟨hcourse.ended _, fun _ _ => ⟨hl, hshared, hcallback⟩⟩
  · rename_i hl
    have hl := Bool.eq_false_iff.mpr hl
    refine (insists_asDone_bind _).ends (q := t₁.opening) (fun _ e => ⟨?_, nofun⟩) fun hd => ?_
    · have hi : t₁.row.Indifferent t₁.opening := .inr (.inl ⟨hl, nofun⟩)
      exact (hcourse.ask (asks_opening happ) hi).ended _
    · simp only [ofExcept, Applet.Reply.asDone, ends_bind, ends_pure, andThen_ok, modifyRow,
        ends_modify]
      show Ends (if t₁.row.callback.isSome = true then subscribe else pure ()) t₁.opened _
      split
      · rename_i hb
        simp only [subscribe, ends_bind, ends_get, andThen_ok]
        rw [← ends_bind]
        have happ' : t₁.opened.row.app = app := happ
        rw [happ']
        refine insists_asDone.ends (fun hs e => ⟨?_, nofun⟩) fun hs => ?_
        · exact (Cut.reopening hcourse hl hb hd hs).ended e
        · exact ⟨(hcourse.reopened hl hb hd hs).ended _, fun _ _ => ⟨rfl, hshared, hcallback⟩⟩
      · rename_i hb
        have hnone := Option.not_isSome_iff_eq_none.mp hb
        exact ⟨(hcourse.opened hl hnone hd).ended _, fun _ _ => ⟨rfl, hshared, hcallback⟩⟩

theorem follows_ensureLoaded : Follows (τ := τ) o app ensureLoaded :=
  fun _ ht => (ends_ensureLoaded ht).mono fun _ _ h => h.1

theorem ends_unsubscribeQuietly_eq {Q : Except Status Unit → Turn τ → Prop} :
    Ends unsubscribeQuietly t Q = Q (.ok ())
      (if t.row.callback.isSome then t.after (.unsubscribe t.row.app) else t) := by
  rw [unsubscribeQuietly, ends_bind, ends_get, andThen_ok, ends_ite]
  split
  · rw [ends_callQuietly]
    rfl
  · rfl

theorem ends_closeQuietly_eq {Q : Except Status Unit → Turn τ → Prop} :
    Ends closeQuietly t Q = Q (.ok ()) (if t.row.loaded then
      { t.after (.closeSession t.row.app) with row := { t.row with loaded := false } } else t) := by
  rw [closeQuietly, ends_bind, ends_get, andThen_ok, ends_ite]
  split
  · rw [ends_bind, ends_callQuietly]
    rfl
  · rfl

/-- The row says that no session is open. -/
theorem saysLess_unloaded (r : Row) (shared : Bool) (h : r.shared = false → shared = false) :
    r.SaysLess { r with loaded := false, shared := shared } := ⟨rfl, .inl rfl, .inl rfl, h⟩

theorem unloaded_eq {r : Row} (h : r.loaded = false) : { r with loaded := false } = r := by
  cases r
  cases h
  rfl

/-- An exclusive session is to be opened: a shared one is closed, and the row is marked. -/
theorem ends_makeExclusive_eq {Q : Except Status Unit → Turn τ → Prop} :
    Ends makeExclusive t Q = if t.row.loaded ∧ t.row.shared then
        Q (.ok ()) { t.after (.closeSession t.row.app) with
          row := { t.row with loaded := false, shared := false } }
      else Q (.ok ()) { t with row := { t.row with shared := false } } := by
  rw [makeExclusive, ends_bind, ends_get, andThen_ok, ends_ite]
  split
  · rename_i h
    rw [ends_bind, ends_closeQuietly_eq, if_pos h.1]
    rfl
  · rfl

/-- What the row says once its session is to be an exclusive one. -/
theorem ends_makeExclusive (ht : t.row.app = app) : Ends makeExclusive t fun r t' =>
    Ended o app t r t' ∧ ∀ a, r = .ok a → t'.row.shared = false ∧
      t'.row.callback = t.row.callback := by
  rw [ends_makeExclusive_eq]
  split
  · have hcourse : Course o app t _ :=
      Course.start.edit (saysLess_unloaded t.row false fun _ => rfl) t.tokens
    have hi : Row.Indifferent { t.row with loaded := false, shared := false }
        (.closeSession t.row.app) := .inr (.inl ⟨rfl, nofun⟩)
    have hq : o.Asks app (.closeSession t.row.app) := ⟨ht, .inl rfl⟩
    exact ⟨(hcourse.ask hq hi).ended _, fun _ _ => ⟨rfl, rfl⟩⟩
  · rename_i h
    have he : t.row.SaysLess { t.row with shared := false } := by
      refine ⟨rfl, .inl rfl, ?_, fun _ => rfl⟩
      cases hl : t.row.loaded with
      | false => exact .inl rfl
      | true =>
        have hs : t.row.shared = false := Bool.eq_false_iff.mpr fun hs => h ⟨hl, hs⟩
        exact .inr ⟨rfl, rfl, hs.symm⟩
    exact ⟨(Course.start.edit he t.tokens).ended _, fun _ _ => ⟨rfl, rfl⟩⟩

/-- Unsubscribing a row that then forgets its handler. -/
theorem follows_unsubscribe_unbind :
    Follows (τ := τ) o app (unsubscribeQuietly >>= fun _ => modifyRow Row.unbind) := by
  intro t ht
  have hless : t.row.SaysLess t.row.unbind := ⟨rfl, .inr rfl, .inr ⟨rfl, rfl, rfl⟩, id⟩
  have hcourse : Course o app t { t with row := t.row.unbind } :=
    Course.start.edit hless t.tokens
  have hi : t.row.unbind.Indifferent (.unsubscribe t.row.app) := .inr (.inr ⟨rfl, rfl⟩)
  rw [ends_bind, ends_unsubscribeQuietly_eq, andThen_ok]
  split
  · have hq : o.Asks app (.unsubscribe t.row.app) := ⟨ht, .inl rfl⟩
    exact (hcourse.ask hq hi).ended _
  · exact hcourse.ended _

/-- Unsubscribing and closing the session follows a course, after which the row is not loaded. -/
theorem ends_unsubscribe_close (ht : t.row.app = app) {f : OnRow τ β}
    (hf : ∀ t', t'.row.app = app → t'.row.loaded = false → Ends f t' (Ended o app t')) :
    Ends (unsubscribeQuietly >>= fun _ => closeQuietly >>= fun _ => f) t (Ended o app t) := by
  -- The row forgets the session ahead of the requests, neither of which bears on it then.
  let row : Row := { t.row with loaded := false }
  have h₀ : Course o app t { t with row := row } :=
    Course.start.edit (saysLess_unloaded t.row t.row.shared id) t.tokens
  have hrest {l : Link τ} (h : Course o app t ⟨row, t.tokens, l⟩) :
      Ends f ⟨row, t.tokens, l⟩ (Ended o app t) :=
    (hf ⟨row, t.tokens, l⟩ ht rfl).mono fun _ _ h' => h.lift h'
  have hclose {l : Link τ} (h : Course o app t ⟨row, t.tokens, l⟩) :
      Ends (closeQuietly >>= fun _ => f) ⟨t.row, t.tokens, l⟩ (Ended o app t) := by
    rw [ends_bind, ends_closeQuietly_eq, andThen_ok]
    split
    · exact hrest (h.ask ⟨ht, .inl rfl⟩ (.inr (.inl ⟨rfl, nofun⟩)))
    · rename_i hl
      have heq : row = t.row := unloaded_eq (Bool.eq_false_iff.mpr hl)
      rw [← heq]
      exact hrest h
  rw [ends_bind, ends_unsubscribeQuietly_eq, andThen_ok]
  split
  · exact hclose (h₀.ask ⟨ht, .inl rfl⟩ (.inr (.inl ⟨rfl, nofun⟩)))
  · exact hclose h₀

/-- The step binds a handler that can be bound, and follows a course from there. -/
def Binds (o : Operation) (app : String) (handler : Handler) (x : OnRow τ α) : Prop :=
  ∀ (t : Turn τ) (row : Row), row.app = app → t.row.bind handler = .ok row →
    Ends x t (Ended o app { t with row := row })

theorem binds_changeRow (handler : Handler) :
    Binds (τ := τ) o app handler (changeRow (Row.bind handler)) := by
  intro t row _ hrow
  rw [changeRow, ends_bind, ends_get, andThen_ok, hrow]
  exact Course.start.ended _

theorem Binds.bind {handler : Handler} {x : OnRow τ α} (hx : Binds o app handler x)
    {f : α → OnRow τ β} (hf : ∀ a, Follows o app (f a)) : Binds o app handler (x >>= f) := by
  intro t row happ hrow
  rw [ends_bind]
  refine (hx t row happ hrow).mono fun r t' h => ?_
  cases r with
  | error e => exact h
  | ok a =>
    exact (hf a t' ((Course.row_app h).trans happ)).mono fun _ _ h' => Course.lift h h'

/-- Binding a handler that can be bound: the session is made an exclusive one first. -/
theorem ends_bindHandler (ht : t.row.app = app) {handler : Handler} {bound : Bool}
    (hc : t.row.checkBind handler = .ok bound) (ho : o.handler? = some handler) {x : OnRow τ α}
    (hx : Binds o app handler x) :
    Ends (do
      makeExclusive
      ensureLoaded
      subscribe
      x) t (Ended o app t) := by
  refine ends_ended_bind (ends_makeExclusive ht) fun _ t₁ h₁ ⟨hx₁, hb₁⟩ => ?_
  have ht₁ := h₁.row_app.trans ht
  refine ends_ended_bind (ends_ensureLoaded ht₁) fun _ t₂ h₂ ⟨hl₂, hx₂, hb₂⟩ => ?_
  have ht₂ := h₂.row_app.trans ht₁
  have hc₂ : t₂.row.checkBind handler = .ok bound := by
    rw [← hc, Row.checkBind, Row.checkBind, hb₂, hb₁]
  obtain ⟨row, hrow⟩ : ∃ row, t₂.row.bind handler = .ok row := by
    unfold Row.bind
    rw [hc₂]
    cases bound <;> exact ⟨_, rfl⟩
  rw [subscribe, ends_bind, ends_bind, ends_get, andThen_ok, ht₂]
  refine insists_asDone.ends (fun hs e => ?_) fun hs => ?_
  · exact (Cut.binding .start ho hl₂ hs).ended (α := α) e
  · have hbound : Course o app t₂ { t₂.after (.subscribe app) with row := row } :=
      Course.start.bound ho (hx₂.trans hx₁) hs hrow
    exact (hx (t₂.after (.subscribe app)) row (hbound.row_app.trans ht₂) hrow).mono
      fun _ _ h => hbound.lift h

/-! ## The operations -/

omit [Transport τ] in
/-- The handle that is sent is the one that the caller gave. -/
theorem ends_sessionHandle (handle : Option UInt32) : Ends (sessionHandle handle) t fun r t' =>
    t' = t ∧ ∀ a, r = .ok a → a = handle.getD noHandle := by
  cases handle with
  | none =>
    refine ⟨rfl, fun a ha => ?_⟩
    exact (Except.ok.inj ha).symm
  | some handle =>
    rw [sessionHandle, ends_bind, ends_get, andThen_ok, ends_bind]
    cases t.row.expectProvisioning handle with
    | error e => exact ⟨rfl, nofun⟩
    | ok _ =>
      refine ⟨rfl, fun a ha => ?_⟩
      exact (Except.ok.inj ha).symm

/-- An inquiry, over an open session. -/
theorem Inquiry.follows {handle : Option UInt32} {request : UInt32 → Applet.Request}
    {read : Applet.Reply → Except Status o.Answer} (h : Inquiry o app handle request read) :
    Follows (τ := τ) o app (do
      let handle ← sessionHandle handle
      ensureLoaded
      ofExcept (read (← call (request handle)))) := by
  intro t ht
  refine ends_ended_bind (P := fun a _ => a = handle.getD noHandle)
    ((ends_sessionHandle handle).mono ?_) fun a t' hcourse ha => ?_
  · rintro r t' ⟨rfl, ha⟩
    exact ⟨Course.start.ended _, ha⟩
  · subst ha
    have hcall : Follows (τ := τ) o app (call (request (handle.getD noHandle))) :=
      follows_call (h.request_app _) h.request? (h.request_seats _)
    exact (follows_ensureLoaded.bind fun _ => hcall.bind fun _ => follows_ofExcept _) t'
      (hcourse.row_app.trans ht)

/-- A task follows a course. -/
theorem Task.follows {x : OnRow τ o.Answer} (h : Task o app x) : Follows o app x := by
  cases h with
  | inquiry h => exact h.follows
  | startProvisioning =>
    refine follows_get fun t ht => (follows_ite follows_throw_bind ?_) t ht
    refine follows_ensureLoaded.bind fun _ => (follows_call (by rfl) rfl rfl).bind fun _ => ?_
    refine (follows_ofExcept _).bind fun handle => Follows.bind ?_ fun _ => follows_pure handle
    refine follows_changeRow fun r r' hr => ?_
    unfold Row.beginProvisioning at hr
    split at hr
    · cases hr
    · obtain rfl := Except.ok.inj hr
      exact saysLess_of_same rfl rfl rfl rfl rfl
  | endProvisioning _ handle capacity =>
    refine follows_get fun t ht => ((follows_ofExcept _).bind fun _ => ?_) t ht
    refine (follows_call (by rfl) rfl rfl).bind fun reply => ?_
    have hend : Follows (τ := τ) (.endProvisioning app handle capacity) app
        (modifyRow Row.endProvisioning) :=
      follows_modifyRow fun _ => saysLess_of_same rfl rfl rfl rfl rfl
    rcases reply.asData capacity with e | (token | required)
    · exact follows_ite (hend.bind fun _ => follows_throw e) (follows_throw e)
    · exact hend.bind fun _ => follows_pure _
    · exact follows_pure _
  | install =>
    exact (follows_call (by rfl) rfl rfl).bind fun _ => (follows_ofExcept _).bind fun _ =>
      follows_ensureLoaded
  | uninstall =>
    intro t ht
    refine ends_unsubscribe_close ht fun t' ht' hl => ?_
    refine Follows.after (fun reply => (follows_ofExcept _).bind fun _ => ?_) ht' ?_
    · exact follows_modifyRow fun _ => saysLess_of_same rfl rfl rfl rfl rfl
    · have hi : t'.row.Indifferent (.uninstall app) := .inr (.inl ⟨hl, nofun⟩)
      exact (Course.start.ask ⟨rfl, .inr rfl⟩ hi).ended _
  | appInstance =>
    refine follows_get fun t ht => (follows_ite follows_throw_bind ?_) t ht
    exact (follows_issueToken _).bind fun _ => follows_pure _
  | registerEvents _ h =>
    refine follows_get fun t ht => ?_
    cases hc : t.row.checkBind h with
    | error e => exact Course.start.ended _
    | ok bound =>
      cases bound with
      | true => exact Course.start.ended _
      | false => exact ends_bindHandler ht hc rfl (binds_changeRow h)
  | unregisterEvents => exact follows_unsubscribe_unbind
  | startInstance =>
    refine follows_get fun t ht => (follows_ite follows_throw_bind ?_) t ht
    exact follows_ensureLoaded.bind fun _ => follows_issueToken _
  | startListening _ _ h =>
    refine follows_get fun t ht => (follows_ite follows_throw_bind ?_) t ht
    refine follows_get fun t ht => ?_
    cases hc : t.row.checkBind h with
    | error e => exact Course.start.ended _
    | ok _ =>
      exact ends_bindHandler ht hc rfl ((binds_changeRow h).bind fun _ => follows_issueToken _)
  | stopInstance =>
    refine follows_get fun t ht => ends_reject (Course.start.ended _) fun _ => ?_
    have hless (r : Row) : r.SaysLess r.retire := saysLess_of_same rfl rfl rfl rfl rfl
    exact ends_unsubscribe_close ht fun t' ht' _ => follows_modifyRow hless t' ht'

/-- How an operation other than connecting and tearing down goes. -/
inductive Goes (o : Operation) (s : Service τ) : Except Status α → Service τ → Prop
  /-- Nothing is done. -/
  | nothing (r : Except Status α) : Goes o s r s
  /-- It has followed a course on the row of its app. -/
  | turn {app : String} {t : Turn τ} {r : Except Status α} (ha : Admitted s o app)
    (h : Ended o app (s.turn app) r t) : Goes o s r (s.settled app t)

variable {s : Service τ}

/-- Every operation other than connecting and tearing down does nothing, takes a course, or fails at
a cut. -/
theorem ends_goes (hs : s.registry.Sound) (hi : o ≠ .init) (hd : o ≠ .deinit) :
    Ends (perform o) s (Goes o s) :=
  ends_perform_of_tasks hi hd (fun e _ => .nothing (.error e)) (fun a _ => .nothing (.ok a))
    fun app _ ha h => .turn ha (h.follows (s.turn app) (hs.app_rowOrFresh app))

end Service

end AppletGateway
