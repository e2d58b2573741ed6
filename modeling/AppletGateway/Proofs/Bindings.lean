import AppletGateway.Device.Channel
import AppletGateway.Proofs.Callbacks
import AppletGateway.Proofs.ClientCalls

/-!
# What a client knows of the handlers

A client keeps a table of the handlers that the gateway holds for it. In front of a service that
nobody else uses, the table and the rows of the registry should say the same after every call. They
do, but for four kinds of calls, all of which end in success at the client: a teardown without a
connection, which leaves the rows alone; an uninstallation or a registration that failed with the
code of success; and the stop of an instance whose token the client takes for another app than the
registry does, or for none.

Results:
* `Client.ends_perform`: a call keeps the agreement unless it is one of these.
* `Client.handlers_agree_iff`: client and registry agree all through a run exactly if it has no
  such call.
-/

namespace AppletGateway

namespace Client

variable {τ : Type} [Transport τ] {c : Client (Direct (Service τ))} {request : Request}

/-- The service that a client is in front of. -/
def service (c : Client (Direct (Service τ))) : Service τ := c.remote.dispatcher.operator

/-- The client and the registry agree on the handler of every app. -/
def Agrees (c : Client (Direct (Service τ))) : Prop :=
  ∀ app, c.bindings.get? app = c.service.registry.callbackFor app

/-! ## One exchange -/

/-- How an operation that has ended with the one result comes out at the client. -/
inductive Reports (o : Operation) : Except Status o.Answer → Except Status Reply.Body → Prop
  | ok {a : o.Answer} {body : Reply.Body} (h : Reply.ofAnswer o.shape a = .ok body) :
    Reports o (.ok a) (.ok body)
  /-- The failure has the code of success. -/
  | misread {e : Status} (h : e.code = 0) : Reports o (.error e) (.ok .empty)
  | failed {e e' : Status} (h : e' = .ofCode e.code ∨ e' = .internalError) :
    Reports o (.error e) (.error e')

/-- How a call without negotiated outputs that can change the handlers ends: with a refusal and
nothing done, or with the operation performed and its result reported. -/
inductive Told (request : Request) (c : Client (Direct (Service τ))) :
    Except Status Reply.Body → Service τ → Prop
  | refused {e : Status} (h : e ∈ .internalError :: Request.refusals) :
    Told request c (.error e) c.service
  | performed {o : Operation} {r : Except Status Reply.Body}
    (ho : request.operation c.remote.caller = .ok o)
    (hr : Reports o ((Service.perform o).run c.service).1 r) :
    Told request c r ((Service.perform o).run c.service).2

/-- A call has left the tables of the client as they were and ended as its operation did. -/
structure Exchanged (request : Request) (c : Client (Direct (Service τ)))
    (r : Except Status Reply.Body) (c' : Client (Direct (Service τ))) : Prop where
  bindings : c'.bindings = c.bindings
  instances : c'.instances = c.instances
  told : Told request c r c'.service

/-- What an operation that can change the handlers answers is reported as it is. -/
theorem reports_ofAnswer {o : Operation} (hshape : o.shape = request.opcode.row.body)
    (hbinds : request.opcode.binds) (a : o.Answer) :
    Reports o (.ok a)
      (Reply.taken (Reply.decode request.opcode (Reply.ofAnswer o.shape a).encode)) := by
  have hbody : request.opcode.row.body = .empty ∨ request.opcode.row.body = .value := by
    generalize request.opcode = opcode at hbinds
    cases opcode <;> first | exact .inl rfl | exact .inr rfl | cases hbinds
  obtain ⟨body, hanswer, hof⟩ : ∃ body, Reply.ofAnswer o.shape a = .ok body ∧
      body.shape = o.shape := by
    have ha : ∀ shape : BodyShape, shape = .empty ∨ shape = .value → ∀ a : shape.Answer,
        ∃ body, Reply.ofAnswer shape a = .ok body ∧ body.shape = shape := by
      rintro _ (rfl | rfl) a
      · exact ⟨_, rfl, rfl⟩
      · exact ⟨_, rfl, rfl⟩
    exact ha o.shape (hshape ▸ hbody) a
  rw [hanswer, Reply.taken_ok hbody (hof.trans hshape)]
  exact .ok hanswer

theorem reports_ofStatus {o : Operation} (e : Status) :
    Reports o (.error e) (Reply.taken (Reply.decode request.opcode (Reply.ofStatus e).encode)) := by
  have h := Reply.taken_ofStatus request.opcode e
  generalize Reply.taken _ = r at h
  cases r with
  | error s => exact .failed h
  | ok body =>
    obtain ⟨rfl, hcode⟩ := h
    exact .misread hcode

/-- A refusal comes out as it is. -/
theorem taken_refusal (request : Request) {e : Status}
    (he : e ∈ .internalError :: Request.refusals) :
    ∃ e' ∈ .internalError :: Request.refusals,
      Reply.taken (Reply.decode request.opcode (Reply.ofStatus e).encode) = .error e' := by
  have h := Reply.taken_ofStatus request.opcode e
  have hknown : ∀ e ∈ .internalError :: Request.refusals,
      e.code ≠ 0 ∧ Status.ofCode e.code = e := by
    decide
  generalize Reply.taken _ = r at h
  cases r with
  | ok body => exact absurd h.2 (hknown e he).1
  | error s =>
    refine ⟨s, ?_, rfl⟩
    rcases h with rfl | rfl
    · rwa [(hknown e he).2]
    · exact List.mem_cons_self

/-- How a call ends that can change the handlers. -/
theorem exchanged_callBody (hbinds : request.opcode.binds) :
    Ends (callBody request) c (Exchanged request c) := by
  refine ends_callBody.mpr ⟨rfl, rfl, ?_⟩
  rw [body_heard_direct]
  show Told request c _ (Dispatcher.operator ((Dispatcher.transact c.remote.caller
    request.opcode.code (request.encode c.descriptor)).run c.remote.dispatcher).2)
  rw [Dispatcher.reply_transact, Dispatcher.operator_transact]
  cases hd : Request.decode request.opcode.code c.remote.dispatcher.descriptor
      (request.encode c.descriptor) with
  | error e =>
    have he : e.status ∈ .internalError :: Request.refusals := by
      cases e <;> simp [EnvelopeError.status, Request.refusals]
    obtain ⟨e', he', heq⟩ := taken_refusal request he
    simp only [heq]
    exact .refused he'
  | ok q =>
    -- What is read is what was written, so the operation performed is the one asked for.
    obtain rfl := Request.eq_of_decode_encode hbinds hd
    simp only [Dispatcher.reply_dispatch, Dispatcher.operator_dispatch]
    have hcheck := q.checks_operation c.remote.caller _ rfl
    cases ho : q.operation c.remote.caller with
    | error e =>
      rw [ho] at hcheck
      obtain ⟨e', he', heq⟩ := taken_refusal q (List.mem_cons_of_mem _ hcheck)
      simp only [heq]
      exact .refused he'
    | ok o =>
      rw [ho] at hcheck
      refine .performed ho ?_
      show Reports o ((Service.perform o).run c.service).1 _
      cases hres : ((Service.perform o).run c.service).1 with
      | error e =>
        have hout : ((Operator.perform o).run c.remote.dispatcher.operator).1 = .error e := hres
        simp only [hout]
        exact reports_ofStatus e
      | ok a =>
        have hout : ((Operator.perform o).run c.remote.dispatcher.operator).1 = .ok a := hres
        simp only [hout]
        exact reports_ofAnswer hcheck.1 hbinds a

/-! ## Calls that leave the handlers alone -/

/-- The registry is sound, and the client agrees with it. -/
structure InStep (c : Client (Direct (Service τ))) : Prop where
  sound : c.service.registry.Sound
  agrees : Agrees c

/-- An operation that cannot change the handlers leaves them as they are. -/
theorem callbackFor_of_not_binds {s : Service τ} (hs : s.registry.Sound) {o : Operation}
    (ho : o.binds = false) (app : String) :
    ((Service.perform o).run s).2.registry.callbackFor app = s.registry.callbackFor app := by
  refine (Service.callbackFor_perform hs o app).trans ?_
  cases ((Service.perform o).run s).1 with
  | error e => rfl
  | ok a => cases o <;> first | rfl | cases ho

variable {α β : Type}

theorem keeps_call (hbinds : request.opcode.binds = false) :
    Keeps (InStep (τ := τ)) (call request) := by
  intro c h
  suffices hservice : ∀ s, s = ((Dispatcher.transact c.remote.caller request.opcode.code
      (request.encode c.descriptor)).run c.remote.dispatcher).2.operator →
      s.registry.Sound ∧ ∀ app, s.registry.callbackFor app = c.service.registry.callbackFor app by
    obtain ⟨hsound, hsame⟩ := hservice _ rfl
    exact ⟨hsound, fun app => (h.agrees app).trans (hsame app).symm⟩
  rintro _ rfl
  rw [Dispatcher.operator_transact]
  cases hd : Request.decode request.opcode.code c.remote.dispatcher.descriptor
      (request.encode c.descriptor) with
  | error e => exact ⟨h.sound, fun _ => rfl⟩
  | ok q =>
    have hq : request.opcode = q.opcode := by
      have := Request.opcode_of_decode hd
      rwa [Opcode.ofCode?_code, Option.some.injEq] at this
    have hcheck := q.checks_operation c.remote.caller _ rfl
    simp only [Dispatcher.operator_dispatch]
    cases ho : q.operation c.remote.caller with
    | error e => exact ⟨h.sound, fun _ => rfl⟩
    | ok o =>
      rw [ho] at hcheck
      have hno : o.binds = false := hcheck.2.trans (hq ▸ hbinds)
      exact ⟨Service.sound_perform h.sound o, callbackFor_of_not_binds h.sound hno⟩

seal call

/-! ## Calls that can change the handlers -/

/-- The call has ended with `r`, the registry is sound, and the client agrees with it unless the
call has succeeded and `P` holds. -/
def InStepUnless (P : Prop) (r : Except Status α) (c : Client (Direct (Service τ))) : Prop :=
  c.service.registry.Sound ∧ (Agrees c ↔ ¬ ((∃ a, r = .ok a) ∧ P))

omit [Transport τ] in
theorem inStepUnless_error {P : Prop} {e : Status} :
    InStepUnless (α := α) P (.error e) c ↔ InStep c :=
  ⟨fun ⟨hs, ha⟩ => ⟨hs, ha.mpr fun ⟨⟨_, h⟩, _⟩ => nomatch h⟩,
    fun ⟨hs, ha⟩ => ⟨hs, iff_of_true ha fun ⟨⟨_, h⟩, _⟩ => nomatch h⟩⟩

omit [Transport τ] in
theorem inStepUnless_ok {P : Prop} {a : α} :
    InStepUnless P (.ok a) c ↔ c.service.registry.Sound ∧ (Agrees c ↔ ¬ P) := by
  simp [InStepUnless]

/-- A call that fails leaves the client in step. -/
theorem Exchanged.inStep_of_error {c' : Client (Direct (Service τ))} {e : Status}
    (hx : Exchanged request c (.error e) c') (h : InStep c) : InStep c' := by
  obtain ⟨hbindings, _, htold⟩ := hx
  suffices hs : c'.service.registry.Sound ∧
      ∀ app, c'.service.registry.callbackFor app = c.service.registry.callbackFor app from
    ⟨hs.1, fun app => by rw [hbindings, hs.2, h.agrees app]⟩
  generalize c'.service = s at htold
  cases htold with
  | refused _ => exact ⟨h.sound, fun _ => rfl⟩
  | @performed o _ _ hr =>
    refine ⟨Service.sound_perform h.sound o, fun app => ?_⟩
    refine (Service.callbackFor_perform h.sound o app).trans ?_
    generalize ((Service.perform o).run c.service).1 = out at hr
    cases hr with
    | failed _ => rfl

/-- The operation fails in the state `s`. -/
def Fails (o : Operation) (s : Service τ) : Prop := ∃ e, ((Service.perform o).run s).1 = .error e

/-- A call that succeeds leaves the handlers as the operation does: those of an operation that has
succeeded, or those from before if it has failed. -/
theorem Exchanged.of_ok {c' : Client (Direct (Service τ))} {body : Reply.Body} {o : Operation}
    (hx : Exchanged request c (.ok body) c') (h : InStep c)
    (ho : ∀ o', request.operation c.remote.caller = .ok o' → o' = o) :
    c'.service.registry.Sound ∧
      ((¬ Fails o c.service ∧
          (∀ app, c'.service.registry.callbackFor app = c.service.rebound app o) ∧
          ∃ a, Reply.ofAnswer o.shape a = .ok body) ∨
        ((∃ e, ((Service.perform o).run c.service).1 = .error e ∧ e.code = 0) ∧
          (∀ app, c'.service.registry.callbackFor app = c.service.registry.callbackFor app) ∧
          body = .empty)) := by
  obtain ⟨_, _, htold⟩ := hx
  generalize c'.service = s at htold
  cases htold with
  | @performed o _ hop hr =>
    obtain rfl := ho o hop
    refine ⟨Service.sound_perform h.sound o, ?_⟩
    have hcallback := Service.callbackFor_perform h.sound o
    cases hres : ((Service.perform o).run c.service).1 with
    | ok a =>
      rw [hres] at hr
      refine .inl ⟨fun ⟨e, he⟩ => ?_, fun app => ?_, ?_⟩
      · rw [hres] at he
        cases he
      · refine (hcallback app).trans ?_
        rw [hres]
        rfl
      · cases hr with
        | ok hanswer => exact ⟨a, hanswer⟩
    | error e =>
      rw [hres] at hr
      cases hr with
      | misread hcode =>
        refine .inr ⟨⟨e, rfl, hcode⟩, fun app => ?_, rfl⟩
        refine (hcallback app).trans ?_
        rw [hres]
        rfl

/-! ## The tables of the client -/

theorem releaseUnlessBound_eq (handler : Handler)
    (c : Client (Direct (Service τ))) : c.releaseUnlessBound handler = c := by
  unfold releaseUnlessBound
  split <;> rfl

theorem unbind_eq (app : String) (c : Client (Direct (Service τ))) : c.unbind app = { c with
    bindings := c.bindings.erase app
    instances := c.instances.filter fun _ owner => owner ≠ app } := by
  unfold unbind
  dsimp only
  split
  · exact releaseUnlessBound_eq _ _
  · rfl

theorem unbindAll_eq (c : Client (Direct (Service τ))) :
    c.unbindAll = { c with bindings := Table.empty, instances := Table.empty } := by
  rw [unbindAll_eq_letGo, letGo_direct]

omit [Transport τ] in
/-- Noting an unbound handler that is still bound loses the agreement. -/
theorem agrees_erase_iff (h : InStep c) (app : String) {c' : Client (Direct (Service τ))}
    (hb : c'.bindings = c.bindings.erase app)
    (hs : ∀ other, c'.service.registry.callbackFor other = c.service.registry.callbackFor other) :
    Agrees c' ↔ c.service.registry.callbackFor app = none := by
  unfold Agrees
  simp only [hb, hs, Table.get?_erase]
  constructor
  · intro ha
    have := ha app
    rw [if_pos rfl] at this
    exact this.symm
  · intro hnone other
    split
    · rename_i happ
      exact happ ▸ hnone.symm
    · exact h.agrees other

omit [Transport τ] in
/-- Noting a bound handler that is not bound loses the agreement. -/
theorem agrees_set_iff (h : InStep c) (app : String) (handler : Handler)
    {c' : Client (Direct (Service τ))} (hb : c'.bindings = c.bindings.set app handler)
    (hs : ∀ other, c'.service.registry.callbackFor other = c.service.registry.callbackFor other) :
    Agrees c' ↔ c.service.registry.callbackFor app = some handler := by
  unfold Agrees
  simp only [hb, hs, Table.get?_set]
  constructor
  · intro ha
    have := ha app
    rw [if_pos rfl] at this
    exact this.symm
  · intro hsome other
    split
    · rename_i happ
      exact happ ▸ hsome.symm
    · exact h.agrees other

/-! ## One call -/

/-- How a call ends that only gets done and has a consequence `after` for the tables. -/
theorem ends_callThen (hbinds : request.opcode.binds)
    {after : Client (Direct (Service τ)) → Client (Direct (Service τ))}
    {Q : Except Status Unit → Client (Direct (Service τ)) → Prop}
    (herror : ∀ e c', Exchanged request c (.error e) c' → Q (.error e) c')
    (hok : ∀ body c', Exchanged request c (.ok body) c' → Q (.ok ()) (after c')) :
    Ends (callThen request after) c Q := by
  rw [callThen, ends_bind, callUnit, ends_bind]
  refine (exchanged_callBody hbinds).mono fun r c' hx => ?_
  cases r with
  | error e => exact herror e c' hx
  | ok body => exact hok body c' hx

/-- A check of the name of an app in front of an operation. -/
theorem eq_of_checkApp {app : String} {f : String → Except Status Operation} {o : Operation}
    (h : (Request.checkApp (some app) >>= f) = .ok o) : f app = .ok o := by
  simp only [Request.checkApp] at h
  split at h
  · exact h
  · cases h

/-- What a call misses that ends in success: the state of the registry in which the client and the
registry draw different conclusions from it. -/
def Misses (c : Client (Direct (Service τ))) : Call → Prop
  | .deinit => c.service.link.connected = false ∧ ∃ app, c.service.registry.callbackFor app ≠ none
  | .uninstall app | .uninstallOtps app =>
    Fails (.uninstall app) c.service ∧ c.service.registry.callbackFor app ≠ none
  | .registerEvents app h =>
    Fails (.registerEvents app h) c.service ∧ c.service.registry.callbackFor app ≠ some h
  | .stopInstance token => ∃ app, c.service.registry.callbackFor app ≠ none ∧
      ¬ (c.instances.get? token = some app ↔
        (c.service.registry.resolve token).map Instance.app = some app)
  | _ => False

theorem ends_deinit (h : InStep c) :
    Ends (callThen .deinit unbindAll) c (InStepUnless (Misses c .deinit)) := by
  refine ends_callThen (by rfl) (fun e c' hx => inStepUnless_error.mpr (hx.inStep_of_error h))
    fun body c' hx => ?_
  have ho : ∀ o, Request.operation c.remote.caller .deinit = .ok o → o = .deinit :=
    fun o ho => (Except.ok.inj ho).symm
  obtain ⟨hsound, ⟨_, hcallback, _⟩ | ⟨⟨e, he, _⟩, _⟩⟩ := hx.of_ok h ho
  · rw [inStepUnless_ok, unbindAll_eq]
    refine ⟨hsound, ?_⟩
    have hbindings (app : String) :
        ({ c' with bindings := Table.empty, instances := Table.empty } :
          Client (Direct (Service τ))).bindings.get? app = none := rfl
    have hservice : ({ c' with bindings := Table.empty, instances := Table.empty } :
        Client (Direct (Service τ))).service = c'.service := rfl
    simp only [Agrees, hbindings, hservice, hcallback, Service.rebound, Misses]
    cases c.service.link.connected with
    | true => simp
    | false => simp [eq_comm]
  · have hrun : ((Service.perform .deinit).run c.service).1 = .ok () := by
      show ((Service.deinit (τ := τ)).run c.service).1 = .ok ()
      simp only [Service.deinit, ExceptT.run]
      split <;> rfl
    rw [hrun] at he
    cases he

theorem ends_uninstall (h : InStep c) {app : String} (hbinds : request.opcode.binds)
    (ho : ∀ o, request.operation c.remote.caller = .ok o → o = .uninstall app) :
    Ends (callThen request (unbind app)) c (InStepUnless (Misses c (.uninstall app))) := by
  refine ends_callThen hbinds (fun e c' hx => inStepUnless_error.mpr (hx.inStep_of_error h))
    fun body c' hx => ?_
  rw [inStepUnless_ok, unbind_eq]
  obtain ⟨hsound, ⟨hdone, hcallback, _⟩ | ⟨⟨e, he, _⟩, hcallback, _⟩⟩ := hx.of_ok h ho
  · refine ⟨hsound, iff_of_true (fun other => ?_) fun hm => hdone hm.1⟩
    refine Eq.trans ?_ (hcallback other).symm
    show (c'.bindings.erase app).get? other = if app = other then none else _
    rw [hx.bindings, Table.get?_erase, h.agrees other]
  · have hfails : Fails (.uninstall app) c.service := ⟨e, he⟩
    refine ⟨hsound, Iff.trans (agrees_erase_iff h app ?_ ?_) ?_⟩
    · exact congrArg (Table.erase · app) hx.bindings
    · exact hcallback
    · simp [Misses, hfails]

theorem ends_registerEvents (h : InStep c) (app : String) (handler : Handler) :
    Ends (registerEvents app handler) c
      (InStepUnless (Misses c (.registerEvents app handler))) := by
  rw [registerEvents, ends_tryCatch]
  refine ends_callThen (by rfl) (fun e c' hx => ?_) fun body c' hx => ?_
  · rw [orElse_error, ends_bind, ends_modify, andThen_ok, ends_throw, releaseUnlessBound_eq]
    exact inStepUnless_error.mpr (hx.inStep_of_error h)
  · have ho : ∀ o, Request.operation c.remote.caller (.registerEvents app handler) = .ok o →
        o = .registerEvents app handler := fun o ho => (Except.ok.inj (eq_of_checkApp ho)).symm
    rw [orElse_ok, inStepUnless_ok]
    obtain ⟨hsound, ⟨hdone, hcallback, _⟩ | ⟨⟨e, he, _⟩, hcallback, _⟩⟩ := hx.of_ok h ho
    · refine ⟨hsound, iff_of_true (fun other => ?_) fun hm => hdone hm.1⟩
      refine Eq.trans ?_ (hcallback other).symm
      show (c'.bindings.set app handler).get? other = if app = other then some handler else _
      rw [hx.bindings, Table.get?_set, h.agrees other]
    · have hfails : Fails (.registerEvents app handler) c.service := ⟨e, he⟩
      refine ⟨hsound, Iff.trans (agrees_set_iff h app handler ?_ ?_) ?_⟩
      · exact congrArg (Table.set · app handler) hx.bindings
      · exact hcallback
      · simp [Misses, hfails]

/-- Unregistering fails only without a connection. -/
theorem ends_serviceUnregister (s : Service τ) (app : String) :
    Ends (Service.unregisterEvents app) s fun r _ => ∀ e, r = .error e →
      e = .libraryNotInitialized := by
  unfold Service.unregisterEvents
  refine Service.guards_requireInit.ends (fun _ e he => (Except.error.inj he).symm) fun _ => ?_
  simp only [ends_bind, ends_get, andThen_ok]
  split
  · exact nofun
  · refine Service.ends_onRow.mpr ?_
    rw [ends_bind]
    refine Service.ends_unsubscribeQuietly.mono fun r t hr => ?_
    obtain ⟨rfl, _⟩ := hr
    exact nofun

/-- Stopping an instance fails only before anything is done. -/
theorem ends_serviceStop (s : Service τ) (caller : Caller) (token : UInt32) :
    Ends (Service.stopInstance caller token) s fun r _ => ∀ e, r = .error e →
      e ∈ [.libraryNotInitialized, .invalidInstanceId, .invalidProcess] := by
  have hfails {e : Status}
      (he : e ∈ [.libraryNotInitialized, .invalidInstanceId, .invalidProcess]) :
      ∀ e', (.error e : Except Status Unit) = .error e' →
        e' ∈ [.libraryNotInitialized, .invalidInstanceId, .invalidProcess] := by
    intro e' h
    rwa [← Except.error.inj h]
  have hdone : ∀ e, (.ok () : Except Status Unit) = .error e →
      e ∈ [.libraryNotInitialized, .invalidInstanceId, .invalidProcess] := by
    intro e h
    cases h
  unfold Service.stopInstance
  refine Service.guards_requireInit.ends (fun _ => hfails (by decide)) fun _ => ?_
  simp only [ends_bind, ends_get, andThen_ok]
  cases s.registry.resolve token with
  | none => exact hfails (by decide)
  | some record =>
    dsimp only
    rw [Service.onExisting]
    split
    · exact hfails (by decide)
    · simp only [ends_bind, ends_get, andThen_ok]
      split
      · exact hfails (by decide)
      · refine Service.ends_onRow.mpr ?_
        simp only [ends_bind, ends_get, andThen_ok]
        split
        · exact hfails (by decide)
        · rw [ends_bind]
          refine Service.ends_unsubscribeQuietly.mono fun r t hr => ?_
          obtain ⟨rfl, _⟩ := hr
          rw [andThen_ok, ends_bind]
          refine Service.ends_closeQuietly.mono fun r t hr => ?_
          obtain ⟨rfl, _⟩ := hr
          exact hdone

theorem ends_unregisterEvents (h : InStep c) (app : String) :
    Ends (unregisterEvents app) c (InStepUnless (Misses c (.unregisterEvents app))) := by
  have ho : ∀ o, Request.operation c.remote.caller (.unregisterEvents app) = .ok o →
      o = .unregisterEvents app := fun o ho => (Except.ok.inj (eq_of_checkApp ho)).symm
  have hfailure : ∀ e, ((Service.perform (.unregisterEvents app)).run c.service).1 = .error e →
      e = .libraryNotInitialized := ends_serviceUnregister c.service app
  rw [unregisterEvents, ends_tryCatch]
  refine ends_callThen (by rfl) (fun e c' hx => ?_) fun body c' hx => ?_
  · have hne : e ≠ .notRegisteredForEvents := by
      have htold := hx.told
      generalize c'.service = s at htold
      cases htold with
      | refused he => exact (by decide : ∀ e ∈ .internalError :: Request.refusals, e ≠ _) e he
      | performed hop hr =>
        obtain rfl := ho _ hop
        generalize ((Service.perform (.unregisterEvents app)).run c.service).1 = out at hr hfailure
        cases hr with
        | failed he =>
          obtain rfl := hfailure _ rfl
          rcases he with rfl | rfl <;> decide
    rw [orElse_error, if_neg hne]
    exact inStepUnless_error.mpr (hx.inStep_of_error h)
  · rw [orElse_ok, inStepUnless_ok, unbind_eq]
    obtain ⟨hsound, ⟨_, hcallback, _⟩ | ⟨⟨e, he, hcode⟩, _⟩⟩ := hx.of_ok h ho
    · refine ⟨hsound, iff_of_true (fun other => ?_) id⟩
      refine Eq.trans ?_ (hcallback other).symm
      show (c'.bindings.erase app).get? other = if app = other then none else _
      rw [hx.bindings, Table.get?_erase, h.agrees other]
    · rw [hfailure e he] at hcode
      exact absurd hcode (by decide)

theorem ends_startInstance (h : InStep c) (app : String) (handler : Option Handler) :
    Ends (startInstance app handler) c (InStepUnless (Misses c (.startInstance app handler))) := by
  have ho : ∀ o, Request.operation c.remote.caller (.startInstance app handler) = .ok o →
      o = .startInstance c.remote.caller app handler :=
    fun o ho => (Except.ok.inj (eq_of_checkApp ho)).symm
  have hrelease (c' : Client (Direct (Service τ))) (h' : InStep c') :
      InStep (handler.elim c' fun handler => c'.releaseUnlessBound handler) := by
    cases handler with
    | none => exact h'
    | some handler =>
      rw [Option.elim_some, releaseUnlessBound_eq]
      exact h'
  rw [startInstance, ends_bind]
  refine (ends_tryCatch _).mpr ?_
  rw [ends_bind, callValue, ends_bind]
  refine (exchanged_callBody (by rfl)).mono fun r c' hx => ?_
  cases r with
  | error e =>
    have h' := hrelease c' (hx.inStep_of_error h)
    cases handler <;> exact inStepUnless_error.mpr h'
  | ok body =>
    obtain ⟨hsound, ⟨_, hcallback, token, hanswer⟩ | ⟨_, hcallback, rfl⟩⟩ := hx.of_ok h ho
    · obtain rfl := Reply.ok.inj hanswer
      have hbindings : c'.bindings = c.bindings := hx.bindings
      cases handler with
      | none =>
        refine inStepUnless_ok.mpr ⟨hsound, iff_of_true (fun other => ?_) id⟩
        show c'.bindings.get? other = c'.service.registry.callbackFor other
        rw [hbindings, hcallback other, h.agrees other]
        rfl
      | some handler =>
        refine inStepUnless_ok.mpr ⟨hsound, iff_of_true (fun other => ?_) id⟩
        refine Eq.trans ?_ (hcallback other).symm
        show (c'.bindings.set app handler).get? other = if app = other then some handler else _
        rw [hbindings, Table.get?_set, h.agrees other]
    · -- A reply without a word is not taken for a token.
      have h' : InStep c' := ⟨hsound, fun other => by rw [hx.bindings, hcallback, h.agrees other]⟩
      have h' := hrelease c' h'
      cases handler <;> exact inStepUnless_error.mpr h'

/-- Two apps whose handlers are cleared leave the same handlers if each has none or is both. -/
theorem clears_alike_iff {handlers : String → Option Handler} {a b : Option String} :
    (∀ app, (if a = some app then none else handlers app) =
        if b = some app then none else handlers app) ↔
      ¬ ∃ app, handlers app ≠ none ∧ ¬ (a = some app ↔ b = some app) := by
  rw [not_exists]
  refine forall_congr' fun app => ?_
  by_cases ha : a = some app <;> by_cases hb : b = some app <;> simp [ha, hb, eq_comm]

theorem ends_stopInstance (h : InStep c) (token : UInt32) :
    Ends (stopInstance token) c (InStepUnless (Misses c (.stopInstance token))) := by
  have ho : ∀ o, Request.operation c.remote.caller (.stopInstance token) = .ok o →
      o = .stopInstance c.remote.caller token := by
    intro o ho
    have ho : (if token = 0 then throw .invalidInstanceId else
      pure (.stopInstance c.remote.caller token) : Except Status Operation) = .ok o := ho
    split at ho
    · cases ho
    · exact (Except.ok.inj ho).symm
  rw [stopInstance, ends_bind, callUnit, ends_bind]
  refine (exchanged_callBody (by rfl)).mono fun r c' hx => ?_
  cases r with
  | error e => exact inStepUnless_error.mpr (hx.inStep_of_error h)
  | ok body =>
    obtain ⟨hsound, ⟨_, hcallback, _⟩ | ⟨⟨e, he, hcode⟩, _⟩⟩ := hx.of_ok h ho
    · have hclear (c'' : Client (Direct (Service τ))) (hservice : c''.service = c'.service)
          (hbindings : ∀ other, c''.bindings.get? other = if c.instances.get? token = some other
            then none else c.service.registry.callbackFor other) :
          InStepUnless (Misses c (.stopInstance token)) (.ok ()) c'' := by
        refine inStepUnless_ok.mpr ⟨hservice ▸ hsound, ?_⟩
        simp only [Agrees, hservice, hcallback, hbindings]
        exact clears_alike_iff
      rw [andThen_ok, ends_pure, andThen_ok, ends_bind, ends_get, andThen_ok]
      split
      · rename_i app hinstance
        rw [ends_modify, unbind_eq]
        refine hclear _ rfl fun other => ?_
        rw [← hx.instances, hinstance]
        refine (Table.get?_erase _ _ _).trans ?_
        rw [hx.bindings, h.agrees other]
        simp
      · rename_i hinstance
        refine hclear c' rfl fun other => ?_
        rw [← hx.instances, hx.bindings, h.agrees other, if_neg (hinstance other)]
    · have hfailure := ends_serviceStop c.service c.remote.caller token e he
      exact absurd hcode ((by decide : ∀ e ∈ [Status.libraryNotInitialized, .invalidInstanceId,
        .invalidProcess], e.code ≠ 0) e hfailure)

omit [Transport τ] in
theorem ends_performUnit {P : Prop} {x : Run (Direct (Service τ)) Unit}
    (h : Ends x c (InStepUnless P)) : Ends (performUnit x) c (InStepUnless P) := by
  rw [performUnit, ends_bind]
  refine h.mono fun r c' hr => ?_
  cases r with
  | error e => exact inStepUnless_error.mpr (inStepUnless_error.mp hr)
  | ok _ => exact inStepUnless_ok.mpr (inStepUnless_ok.mp hr)

/-- Whatever the call, it leaves the client in step unless it succeeds and misses something. -/
theorem ends_perform (h : InStep c) (call : Call) :
    Ends (perform call) c (InStepUnless (Misses c call)) := by
  cases hcall : call.binds with
  | false =>
    have hmisses : ¬ Misses c call := by
      cases call <;> first | exact id | cases hcall
    refine (keeps_perform (fun _ => keeps_call) hcall c h).mono fun r c' h' => ?_
    exact ⟨h'.sound, iff_of_true h'.agrees fun hm => hmisses hm.2⟩
  | true =>
    cases call with
    | deinit => exact ends_performUnit (ends_deinit h)
    | uninstall app | uninstallOtps app =>
      refine ends_performUnit (ends_uninstall h (by rfl) fun o ho => ?_)
      exact (Except.ok.inj (eq_of_checkApp ho)).symm
    | registerEvents app handler => exact ends_performUnit (ends_registerEvents h app handler)
    | unregisterEvents app => exact ends_performUnit (ends_unregisterEvents h app)
    | startInstance app handler =>
      rw [perform, ends_bind]
      refine (ends_startInstance h app handler).mono fun r c' hr => ?_
      cases r with
      | error e => exact inStepUnless_error.mpr (inStepUnless_error.mp hr)
      | ok _ => exact inStepUnless_ok.mpr (inStepUnless_ok.mp hr)
    | stopInstance token => exact ends_performUnit (ends_stopInstance h token)
    | _ => cases hcall

/-- A call that succeeds and misses something. -/
def Slips (c : Client (Direct (Service τ))) (call : Call) : Prop :=
  (∃ a, ((perform call).run c).1 = .ok a) ∧ Misses c call

/-! ## Runs -/

/-- What happens in front of a service: a call, or between two calls the link becomes another,
whatever has happened on its side. -/
inductive Step (τ : Type)
  | call (call : Call)
  | link (link : Link τ)

/-- The client after a step. -/
def step (c : Client (Direct (Service τ))) : Step τ → Client (Direct (Service τ))
  | .call call => ((perform call).run c).2
  | .link link => { c with remote := { c.remote with
      dispatcher := { c.remote.dispatcher with operator := { c.service with link := link } } } }

/-- The client after some steps, the first of them first. -/
def after (steps : List (Step τ)) (c : Client (Direct (Service τ))) :
    Client (Direct (Service τ)) := steps.foldl step c

/-- A client before its first call, with a service that has no rows yet. -/
def fresh (link : Link τ) (options : ServiceOptions) (caller : Caller)
    (descriptor expected : String) (initialLength : UInt32) : Client (Direct (Service τ)) :=
  .new { dispatcher := { operator := { link := link, options := options }, descriptor := expected }
         caller := caller } descriptor initialLength

omit [Transport τ] in
theorem inStep_fresh (link : Link τ) (options : ServiceOptions) (caller : Caller)
    (descriptor expected : String) (initialLength : UInt32) :
    InStep (fresh link options caller descriptor expected initialLength) :=
  ⟨Registry.sound_new, fun _ => rfl⟩

theorem agrees_step_iff (x : Step τ) (hsound : c.service.registry.Sound) (hagrees : Agrees c) :
    (step c x).service.registry.Sound ∧
      (Agrees (step c x) ↔ ¬ ∃ call, x = .call call ∧ Slips c call) := by
  cases x with
  | call call =>
    obtain ⟨hsound, hagrees⟩ := ends_perform ⟨hsound, hagrees⟩ call
    refine ⟨hsound, hagrees.trans ⟨fun hno hslips => ?_, fun hno hslips => hno ⟨call, rfl, hslips⟩⟩⟩
    obtain ⟨call', heq, hslips⟩ := hslips
    obtain rfl := Step.call.inj heq
    exact hno hslips
  | link link => exact ⟨hsound, iff_of_true hagrees nofun⟩

theorem agrees_after_iff (h : InStep c) (steps : List (Step τ)) :
    (∀ before, before <+: steps → Agrees (after before c)) ↔
      ∀ before call, before ++ [.call call] <+: steps → ¬ Slips (after before c) call := by
  refine (foldl_prefixes_iff (I := fun c : Client (Direct (Service τ)) => c.service.registry.Sound)
    (fun c x => agrees_step_iff x) h.sound h.agrees steps).trans ?_
  constructor
  · exact fun hno before call hb hslips => hno before _ hb ⟨call, rfl, hslips⟩
  · intro hno before x hb ⟨call, hx, hslips⟩
    exact hno before call (hx ▸ hb) hslips

/-- Whatever calls are made and whatever happens on the side of the co-processor, a client that is
the only one of its service agrees with the registry after every call exactly if no call slips. -/
theorem handlers_agree_iff (link : Link τ) (options : ServiceOptions) (caller : Caller)
    (descriptor expected : String) (initialLength : UInt32) (steps : List (Step τ)) :
    let start := fresh link options caller descriptor expected initialLength
    (∀ before, before <+: steps → ∀ app handler,
        (after before start).bindings.get? app = some handler ↔
          (after before start).service.registry.callbackFor app = some handler) ↔
      ∀ before call, before ++ [.call call] <+: steps → ¬ Slips (after before start) call := by
  intro start
  have hagrees (c : Client (Direct (Service τ))) : (∀ app handler,
      c.bindings.get? app = some handler ↔ c.service.registry.callbackFor app = some handler) ↔
      Agrees c :=
    ⟨fun h app => Option.ext (h app), fun h app handler => by rw [h app]⟩
  simp only [hagrees]
  exact agrees_after_iff (inStep_fresh link options caller descriptor expected initialLength) steps

/-- The handler of an app is unbound and another one bound while an instance of it is running. The
client then forgets whose instance that was, and stopping it leaves the new handler in its table. -/
theorem stopInstance_slips :
    ∃ (start c : Client (Direct (Service Channel))) (steps : List (Step Channel)),
      start = fresh { transport := { device := .ofApps ["a"] } } {} ⟨.self, 0⟩ "i" "i" 64 ∧
      steps = [.call .init, .call (.startInstance "a" (some (.own "h"))),
        .call (.unregisterEvents "a"), .call (.registerEvents "a" (.own "k"))] ∧
      c = after steps start ∧ Slips c (.stopInstance 1) ∧
      ¬ ∀ before, before <+: steps ++ [.call (.stopInstance 1)] → ∀ app handler,
        (after before start).bindings.get? app = some handler ↔
          (after before start).service.registry.callbackFor app = some handler := by
  refine ⟨_, _, _, rfl, rfl, rfl, ?_⟩
  suffices hslips : Slips _ (.stopInstance 1) from
    ⟨hslips, fun hall => (handlers_agree_iff _ _ _ _ _ _ _).mp hall _ _ List.prefix_rfl hslips⟩
  refine ⟨exists_of_isOk (by decide +kernel), "a", by decide +kernel, by decide +kernel⟩

end Client

end AppletGateway
