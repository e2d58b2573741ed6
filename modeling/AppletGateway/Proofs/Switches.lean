import AppletGateway.Proofs.Courses
import AppletGateway.Proofs.Dispatching
import AppletGateway.Proofs.Instances
import AppletGateway.Proofs.Wire

/-!
# Features that are switched off

Events and installing can be switched off when the service is set up. The checks of the switches
stand in front of single operations, but what they are to prevent lies elsewhere: the co-processor
must not be asked, in none of its frames, and no row must have a handler, or its events would be
subscribed to again with the next session.

So the invariant of a turn, `Service.Obeys`, has two parts that go together. Without events the row
has no handler; and the link has asked only for what the switches permit. The course of an operation
keeps it, and with it `Service.Governed`, the invariant of the service.

Results:
* `Service.Course.obeys`, `Service.Cut.obeys`: sessions are opened without a subscription if events
  are off.
* `Service.governed_perform`: every operation keeps to the switches.
* `Dispatcher.switches_hold`: so does every run of transactions.
-/

namespace AppletGateway

/-- The requests that the switches permit. -/
def ServiceOptions.Permits (options : ServiceOptions) : Applet.Request → Prop
  | .subscribe _ => options.eventsEnabled = true
  | .install _ _ | .uninstall _ => options.installEnabled = true
  | _ => True

/-- An operation that is not disabled asks only for what is permitted, subscriptions aside. -/
theorem Operation.Asks.permitted {o : Operation} {app : String} {q : Applet.Request}
    {options : ServiceOptions} (h : o.Asks app q) (he : ¬ o.Disabled options)
    (hq : q ≠ .subscribe app) : options.Permits q := by
  have hinstall (ho : o.request? = some q) (hrequest : ∀ options : ServiceOptions,
      options.installEnabled = false → o.Disabled options) : options.installEnabled = true :=
    Bool.of_not_eq_false fun hoff => he (hrequest options hoff)
  cases q with
  | subscribe other =>
    obtain rfl : other = app := h.app
    exact absurd rfl hq
  | install | uninstall =>
    have ho := h.own.resolve_left nofun
    refine hinstall ho fun options hoff => ?_
    cases o with
    | install | uninstall => exact hoff
    | _ => cases ho
  | _ => trivial

/-- An operation that binds a handler and is not disabled has events. -/
theorem Operation.eventsEnabled_of_handler? {o : Operation} {options : ServiceOptions}
    {handler : Handler} (he : ¬ o.Disabled options) (ho : o.handler? = some handler) :
    options.eventsEnabled = true := by
  refine Bool.of_not_eq_false fun hoff => he ?_
  cases o with
  | registerEvents => exact hoff
  | startInstance =>
    cases ho
    exact hoff
  | _ => cases ho

namespace Service

variable {τ : Type} [Transport τ] {α : Type} {o : Operation} {app : String}
  {options : ServiceOptions} {t t' : Turn (Observed τ)} {s s' : Service (Observed τ)}

/-! ## Turns -/

/-- The turn has kept to the switches. -/
structure Obeys (options : ServiceOptions) (t : Turn (Observed τ)) : Prop where
  unbound : options.eventsEnabled = false → t.row.callback = none
  link : t.link.Restrained options.Permits

theorem Obeys.after (h : Obeys options t) {q : Applet.Request} (hq : options.Permits q) :
    Obeys options (t.after q) :=
  ⟨h.unbound, Link.restrained_exchange hq t.link h.link⟩

omit [Transport τ] in
/-- A row with a handler is there with events only. -/
theorem Obeys.eventsEnabled (h : Obeys options t) (hb : t.row.callback.isSome = true) :
    options.eventsEnabled = true := by
  refine Bool.of_not_eq_false fun hoff => ?_
  rw [h.unbound hoff] at hb
  cases hb

omit [Transport τ] in
theorem Obeys.withRow (h : Obeys options t) {row : Row}
    (hrow : options.eventsEnabled = false → t.row.callback = none → row.callback = none)
    (tokens : Tokens) : Obeys options { t with row := row, tokens := tokens } :=
  ⟨fun hoff => hrow hoff (h.unbound hoff), h.link⟩

/-- A session is opened. -/
theorem Obeys.opened (h : Obeys options t) : Obeys options t.opened := by
  have hasked : Obeys options (t.after t.opening) := h.after trivial
  have hrow (_ : options.eventsEnabled = false) (hnone : t.row.callback = none) :
      { t.row with loaded := true, openedOn := t.link.epoch }.callback = none := hnone
  exact hasked.withRow hrow t.tokens

/-- A course of an operation that is not disabled keeps to the switches. Events are subscribed to
for a row with a handler, or to bind one. -/
theorem Course.obeys (h : Course o app t t') (ht : t.row.app = app) (he : ¬ o.Disabled options)
    (hstart : Obeys options t) : Obeys options t' := by
  induction h with
  | start => exact hstart
  | edit _ hless tokens ih =>
    refine ih.withRow (fun _ hnone => ?_) tokens
    exact hless.callback.elim (fun hsame => hsame.trans hnone) id
  | @ask t' h q hq hi ih =>
    refine ih.after (hq.permitted he ?_)
    rintro rfl
    rcases hi with hi | ⟨_, hi⟩ | ⟨_, hi⟩
    · cases hi
    · exact hi (congrArg _ (h.row_app.trans ht).symm)
    · cases hi
  | opened _ _ _ _ ih => exact ih.opened
  | reopened _ _ hb _ _ ih => exact ih.opened.after (ih.eventsEnabled hb)
  | @bound t' _ _ row ho _ _ _ ih =>
    have hon := Operation.eventsEnabled_of_handler? he ho
    have hsub : Obeys options (t'.after (.subscribe app)) := ih.after hon
    exact hsub.withRow (fun hoff => absurd (hoff.symm.trans hon) Bool.false_ne_true) t'.tokens

/-- So does a cut. -/
theorem Cut.obeys (h : Cut o app t t') (ht : t.row.app = app) (he : ¬ o.Disabled options)
    (hstart : Obeys options t) : Obeys options t' := by
  cases h with
  | reopening h _ hb _ _ =>
    have hobeys := h.obeys ht he hstart
    exact hobeys.opened.after (hobeys.eventsEnabled hb)
  | binding h ho _ _ =>
    exact (h.obeys ht he hstart).after (Operation.eventsEnabled_of_handler? he ho)

/-! ## Operations -/

/-- The service has kept to the switches. -/
structure Governed (options : ServiceOptions) (s : Service (Observed τ)) : Prop where
  sound : s.registry.Sound
  switched : s.options = options
  unbound : options.eventsEnabled = false →
    ∀ app row, s.registry.row? app = some row → row.callback = none
  link : s.link.Restrained options.Permits

omit [Transport τ] in
theorem governed_new (client : Guid) (t : τ) (options : ServiceOptions) :
    Governed options (new (Link.unused client t) options) :=
  ⟨Registry.sound_new, rfl, fun _ _ _ hrow => (nomatch hrow), Link.restrained_unused client t⟩

omit [Transport τ] in
theorem Governed.turn (h : Governed options s) (app : String) : Obeys options (s.turn app) := by
  refine ⟨fun he => ?_, h.link⟩
  show (s.registry.rowOrFresh app).callback = none
  rw [Registry.rowOrFresh]
  cases hrow : s.registry.row? app with
  | none => rfl
  | some row => exact h.unbound he app row hrow

/-- An operation that has gone its way has kept to the switches. -/
theorem Goes.governed {r : Except Status α} (hg : Goes o s r s') (h : Governed options s)
    (hs' : s'.registry.Sound) : Governed options s' := by
  cases hg with
  | nothing => exact h
  | @turn app t _ ha hended =>
    have happ := h.sound.app_rowOrFresh app
    have he : ¬ o.Disabled options := h.switched ▸ ha.enabled
    have ht : Obeys options t := by
      cases r with
      | ok a => exact Course.obeys hended happ he (h.turn app)
      | error e =>
        rcases hended with hcourse | hcut
        · exact hcourse.obeys happ he (h.turn app)
        · exact hcut.obeys happ he (h.turn app)
    refine ⟨hs', h.switched, fun hoff other row hrow => ?_, ht.link⟩
    rcases Registry.row?_of_settle hrow with ⟨-, rfl, -⟩ | hrow
    · exact ht.unbound hoff
    · exact h.unbound hoff other row hrow

theorem governed_init : Keeps (Governed (τ := τ) options) init := fun s h =>
  ends_init.mpr <| (Link.restrained_connect s.link h.link).mono
    fun _ _ hl => ⟨h.sound, h.switched, h.unbound, hl⟩

/-- Tearing down drops the rows, and it asks for nothing but the end of what they stand for. -/
theorem governed_deinit : Keeps (Governed (τ := τ) options) deinit := by
  intro s h
  unfold Ends
  rw [run_deinit]
  split
  · obtain ⟨talk, hc, hends⟩ := converses_closeDrained (Registry.drain.run s.registry).1 s.link
    refine ⟨Registry.sound_drain _, h.switched, fun _ _ _ hrow => (nomatch hrow),
      Link.restrained_disconnect ?_⟩
    -- The rows are closed one by one, and each close is an exchange of its own.
    refine hc.keeps (fun l e he hl => ?_) h.link
    obtain ⟨app, hq | hq⟩ := hends e he
    · exact Link.restrained_exchange (hq ▸ trivial) l hl
    · exact Link.restrained_exchange (hq ▸ trivial) l hl
  · exact h

theorem governed_pollEvents : Keeps (Governed (τ := τ) options) pollEvents := fun s h =>
  (Link.restrained_pollEvents s.link h.link).mono
    (R := fun _ l => Governed options { s with link := l })
    fun _ _ hl => ⟨h.sound, h.switched, h.unbound, hl⟩

/-- Every operation keeps to the switches. -/
theorem governed_perform (o : Operation) : Keeps (Governed (τ := τ) options) (perform o) := by
  intro s h
  by_cases hi : o = .init
  · subst hi
    exact governed_init s h
  by_cases hd : o = .deinit
  · subst hd
    exact governed_deinit s h
  exact ((ends_goes h.sound hi hd).and (sound_perform h.sound o)).mono
    fun _ _ ⟨hg, hs'⟩ => hg.governed h hs'

end Service

/-! ## Runs -/

namespace Dispatcher

open Service (Governed)

variable {τ : Type} {options : ServiceOptions} {d : Dispatcher (Service (Observed τ))}

/-- What can happen to a dispatcher in front of a service: transactions of any callers, a look for
events, their collection, and whatever becomes of the channel by itself. -/
inductive Happening (τ : Type)
  | transact (caller : Caller) (code : UInt32) (envelope : Envelope)
  | poll
  | collect
  | outside (t : τ)

/-- A dispatcher in front of a service that has done nothing yet. -/
def unused (client : Guid) (t : τ) (options : ServiceOptions) (descriptor : String) :
    Dispatcher (Service (Observed τ)) :=
  { operator := Service.new (Link.unused client t) options, descriptor := descriptor }

variable [Transport τ]

/-- The dispatcher after one of them. -/
def happen : Happening τ → Dispatcher (Service (Observed τ)) → Dispatcher (Service (Observed τ))
  | .transact caller code envelope, d => ((transact caller code envelope).run d).2
  | .poll, d => { d with operator := (Service.pollEvents.run d.operator).2 }
  | .collect, d => { d with operator := (Service.takeEvents.run d.operator).2 }
  | .outside t, d =>
    let link := { d.operator.link with transport := Link.becomes t d.operator.link.transport }
    { d with operator := { d.operator with link := link } }

/-- The dispatcher after all of a run, one after the other. -/
def happened (run : List (Happening τ)) (d : Dispatcher (Service (Observed τ))) :
    Dispatcher (Service (Observed τ)) :=
  run.foldl (fun d h => happen h d) d

/-- A transaction keeps to the switches, whatever its envelope asks for. -/
theorem governed_transact (h : Governed options d.operator) (caller : Caller) (code : UInt32)
    (envelope : Envelope) :
    Governed options ((transact caller code envelope).run d).2.operator := by
  rw [operator_transact]
  cases Request.decode code d.descriptor envelope with
  | error e => exact h
  | ok request =>
    dsimp only
    rw [operator_dispatch]
    cases request.operation caller with
    | error e => exact h
    | ok o => exact Service.governed_perform o d.operator h

theorem governed_happen (h : Governed options d.operator) (x : Happening τ) :
    Governed options (happen x d).operator := by
  cases x with
  | transact caller code envelope => exact governed_transact h caller code envelope
  | poll => exact Service.governed_pollEvents d.operator h
  | collect => exact ⟨h.sound, h.switched, h.unbound, h.link.room, h.link.asking, h.link.whole⟩
  | outside t => exact ⟨h.sound, h.switched, h.unbound, h.link.becomes t⟩

theorem governed_happened (h : Governed options d.operator) (run : List (Happening τ)) :
    Governed options (happened run d).operator := by
  induction run generalizing d with
  | nil => exact h
  | cons x run ih => exact ih (governed_happen h x)

/-- Over a channel of any kind and after every run of transactions, with any numbers, descriptors
and arguments: if events are disabled, no row has a handler and the co-processor was not asked to
subscribe to any events; if installing is disabled, it was not asked to install or uninstall any
app. -/
theorem switches_hold (client : Guid) (t : τ) (options : ServiceOptions) (descriptor : String)
    (run : List (Happening τ)) :
    let s := (happened run (unused client t options descriptor)).operator
    (options.eventsEnabled = false →
      (∀ app row, s.registry.row? app = some row → row.callback = none) ∧
      ∀ app, .subscribe app ∉ Observed.asked s.link.transport.calls) ∧
    (options.installEnabled = false → ∀ app,
      (∀ source, .install app source ∉ Observed.asked s.link.transport.calls) ∧
      .uninstall app ∉ Observed.asked s.link.transport.calls) := by
  intro s
  have h : Governed options s := governed_happened (Service.governed_new client t options) run
  refine ⟨fun he => ⟨h.unbound he, fun app hasked => ?_⟩, fun hi app => ⟨fun source hasked => ?_,
    fun hasked => ?_⟩⟩
  · exact Bool.false_ne_true (he.symm.trans (h.link.asking _ hasked))
  · exact Bool.false_ne_true (hi.symm.trans (h.link.asking _ hasked))
  · exact Bool.false_ne_true (hi.symm.trans (h.link.asking _ hasked))

/-- Calls of every version to the simulated co-processor. It is asked for all that they stand for,
or for nothing. -/
example :
    let call (r : Request) : Happening Channel := .transact { process := .self } r.opcode.code
      (r.encode "i")
    let run := [call .init, call (.install (some "b") (some "s")),
      call (.installOtps (some "c") (some "s")), call (.uninstall (some "b")),
      call (.uninstallOtps (some "c")), call (.registerEvents (some "a") (some (.own "h"))),
      call (.startInstance (some "a") (some (.own "h")))]
    let after (options : ServiceOptions) : Service (Observed Channel) :=
      (happened run (unused Guid.nil { device := .ofApps ["a"] } options "i")).operator
    (after ⟨true, true⟩).registry.callbackFor "a" = some (.own "h") ∧
      [.install "b" "s", .install "c" "s", .uninstall "b", .uninstall "c", .subscribe "a"] ⊆
        Observed.asked (after ⟨true, true⟩).link.transport.calls ∧
      Observed.asked (after ⟨false, false⟩).link.transport.calls = [] := by
  decide +kernel

end Dispatcher

end AppletGateway
