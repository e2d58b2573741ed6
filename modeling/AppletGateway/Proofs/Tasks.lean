import AppletGateway.Proofs.Steps
import AppletGateway.Service

/-!
# The tasks of operations

Before an operation works on the row of its app, it goes through its checks: the link has to be
connected, the feature enabled, the arguments complete. What it does on the row then is its task.
Six operations have the same task up to the request, which is made over an open session and whose
reply is read; these are inquiries. So there are eleven forms of tasks.

The checks are gone through here once. What holds of every operation is proved for the forms of
tasks.

Results:
* `Service.ends_perform_of_tasks`: every operation other than connecting and tearing down is
  refused, has nothing to do, or does its task.
-/

namespace AppletGateway

open Applet (noHandle)

/-! ## Requests -/

/-- The app that a request is about. -/
def Applet.Request.app : Applet.Request → String
  | openSession app _ | closeSession app | install app _ | uninstall app | startProvisioning app
  | endProvisioning app .. | sendData app .. | receiveData app .. | sendAndReceive app ..
  | capabilities app .. | getOtp app .. | otpsStatus app .. | subscribe app | unsubscribe app => app

/-- Whether a request can change the sessions and the subscriptions of its app. -/
def Applet.Request.seats : Applet.Request → Bool
  | openSession .. | closeSession _ | uninstall _ | subscribe _ | unsubscribe _ => true
  | _ => false

/-- Whether a request is one by which an operation attends to the session of its app. -/
def Applet.Request.attends : Applet.Request → Bool
  | openSession .. | closeSession _ | subscribe _ | unsubscribe _ => true
  | _ => false

theorem Applet.Request.seats_of_attends {q : Applet.Request} (h : q.attends = true) :
    q.seats = true := by
  cases q <;> first | rfl | cases h

/-- The handle that a request carries. -/
def Applet.Request.handle? : Applet.Request → Option UInt32
  | endProvisioning _ handle _ | sendData _ handle .. | receiveData _ handle ..
  | sendAndReceive _ handle .. | getOtp _ handle .. | otpsStatus _ handle _ => some handle
  | _ => none

/-- The request that an operation is there to make; what it asks for besides is to open and to close
sessions and subscriptions. -/
def Operation.request? : Operation → Option Applet.Request
  | .startProvisioning app => some (.startProvisioning app)
  | .endProvisioning app handle capacity => some (.endProvisioning app handle capacity)
  | .sendData app handle dataType data =>
    some (.sendData app (handle.getD noHandle) dataType data)
  | .receiveData app handle dataType capacity =>
    some (.receiveData app (handle.getD noHandle) dataType capacity)
  | .sendAndReceive app handle dataType data capacity =>
    some (.sendAndReceive app (handle.getD noHandle) dataType data capacity)
  | .capabilities app capType capacity => some (.capabilities app capType capacity)
  | .install app source => some (.install app source)
  | .uninstall app => some (.uninstall app)
  | .getOtp app r =>
    some (.getOtp app (r.handle.getD noHandle) r.token r.vendorData r.otpCapacity r.tokenCapacity)
  | .otpsStatus app handle statusType =>
    some (.otpsStatus app (handle.getD noHandle) statusType)
  | _ => none

/-! ## Arguments -/

/-- The provisioning handle that the caller gives. -/
def Operation.handle? : Operation → Option UInt32
  | .endProvisioning _ handle _ => some handle
  | .sendData _ handle .. | .receiveData _ handle .. | .sendAndReceive _ handle ..
  | .otpsStatus _ handle _ => handle
  | .getOtp _ request => request.handle
  | _ => none

/-- The handler that the operation is to bind. -/
def Operation.handler? : Operation → Option Handler
  | .registerEvents _ handler => some handler
  | .startInstance _ _ handler => handler
  | _ => none

/-- Whether the operation opens a session before it makes its request. -/
def Operation.opens : Operation → Bool
  | .startProvisioning _ | .sendData .. | .receiveData .. | .sendAndReceive .. | .capabilities ..
  | .getOtp .. | .otpsStatus .. => true
  | _ => false

/-- The feature that the operation belongs to is disabled. -/
def Operation.Disabled (options : ServiceOptions) : Operation → Prop
  | .install .. | .uninstall _ => options.installEnabled = false
  | .registerEvents .. | .startInstance _ _ (some _) => options.eventsEnabled = false
  | _ => False

/-- The operation lacks data to send or room for the answer. -/
def Operation.Lacking : Operation → Prop
  | .sendData _ _ _ data => data = []
  | .receiveData _ _ _ capacity | .capabilities _ _ capacity => capacity = 0
  | .sendAndReceive _ _ _ data capacity => data = [] ∨ capacity = 0
  | .getOtp _ request =>
    request.otpCapacity = 0 ∨ (request.handle.isNone ∧ request.token = [])
  | _ => False

namespace Service

variable {τ : Type} {α : Type} {o : Operation} {app : String} {s : Service τ}

/-! ## The row of an app -/

/-- The service after a turn on the row of an app. -/
def settled (s : Service τ) (app : String) (t : Turn τ) : Service τ :=
  { s with registry := s.registry.settle app ⟨t.row, t.tokens⟩, link := t.link }

/-- What a turn on the row of an app starts from. -/
def turn (s : Service τ) (app : String) : Turn τ :=
  ⟨s.registry.rowOrFresh app, s.registry.tokens, s.link⟩

/-- The app on whose row an operation works. -/
def target (s : Service τ) : Operation → Option String
  | .init | .deinit | .version => none
  | .startProvisioning app | .endProvisioning app .. | .sendData app .. | .receiveData app ..
  | .sendAndReceive app .. | .capabilities app .. | .install app _ | .uninstall app
  | .getOtp app _ | .otpsStatus app .. | .appInstance app | .registerEvents app _
  | .unregisterEvents app | .startInstance _ app _ => some app
  | .stopInstance _ token => (s.registry.resolve token).map Instance.app

/-- A step on the row of an app is a turn, after which the row is kept or dropped. -/
theorem ends_onRow {x : OnRow τ α} {Q : Except Status α → Service τ → Prop} :
    Ends (onRow app x) s Q = Ends x (s.turn app) fun r t => Q r (s.settled app t) := rfl

theorem ends_onExisting {x : OnRow τ α} {missing : Status}
    {Q : Except Status α → Service τ → Prop} :
    Ends (onExisting app missing x) s Q = if (s.registry.row? app).isNone then Q (.error missing) s
      else Ends x (s.turn app) fun r t => Q r (s.settled app t) := by
  simp only [onExisting, ends_bind, ends_get, andThen_ok]
  split <;> rfl

theorem ends_onExisting_of {x : OnRow τ α} {missing : Status}
    {Q : Except Status α → Service τ → Prop} (hmissing : Q (.error missing) s)
    (hx : Ends x (s.turn app) fun r t => Q r (s.settled app t)) :
    Ends (onExisting app missing x) s Q := by
  rw [ends_onExisting]
  split
  · exact hmissing
  · exact hx

/-! ## Checks -/

theorem ends_look {σ : Type} {s : σ} {f : σ → Act σ α} {Q : Except Status α → σ → Prop}
    (h : Ends (f s) s Q) : Ends (get >>= f) s Q := by
  rw [ends_bind]
  exact h

theorem ends_reject {σ β : Type} {s : σ} {c : Prop} [Decidable c] {e : Status} {f : β → Act σ α}
    {x : Act σ α} {Q : Except Status α → σ → Prop} (hstop : Q (.error e) s)
    (hgo : ¬ c → Ends x s Q) : Ends (if c then throw e >>= f else x) s Q := by
  split
  · exact hstop
  · rename_i hc
    exact hgo hc

/-- The check `g` in front of an operation lets it go on under the condition `c` and refuses it with
`e` otherwise. -/
def Guards (c : Service τ → Bool) (e : Status) (g : Act (Service τ) Unit) : Prop :=
  ∀ s, g.run s = if c s then (.ok (), s) else (.error e, s)

theorem guards_check (c : Service τ → Bool) (e : Status) :
    Guards c e (do if !c (← get) then throw e) := by
  intro s
  have hrun : (do if !c (← get) then throw e : Act (Service τ) Unit).run s =
      (if !c s then throw e else pure () : Act (Service τ) Unit).run s := rfl
  rw [hrun]
  cases c s <;> rfl

theorem guards_requireInit :
    Guards (τ := τ) (fun s => s.link.connected) .libraryNotInitialized requireInit :=
  guards_check _ _

theorem guards_requireEvents :
    Guards (τ := τ) (fun s => s.options.eventsEnabled) .notImplemented requireEvents :=
  guards_check _ _

theorem guards_requireInstall :
    Guards (τ := τ) (fun s => s.options.installEnabled) .notImplemented requireInstall :=
  guards_check _ _

section Guards

variable {c : Service τ → Bool} {e : Status} {g : Act (Service τ) Unit}

theorem Guards.ends (hg : Guards c e g) {f : Unit → Act (Service τ) α}
    {Q : Except Status α → Service τ → Prop} (hstop : c s = false → Q (.error e) s)
    (hgo : c s = true → Ends (f ()) s Q) : Ends (g >>= f) s Q := by
  rw [ends_bind]
  unfold Ends
  rw [hg s]
  split
  · rename_i hc
    exact hgo hc
  · rename_i hc
    exact hstop (Bool.eq_false_iff.mpr hc)

theorem Guards.pass (hg : Guards c e g) (hc : c s = true) {f : Unit → Act (Service τ) α}
    {Q : Except Status α → Service τ → Prop} (hf : Ends (f ()) s Q) : Ends (g >>= f) s Q :=
  hg.ends (fun hno => absurd (hno.symm.trans hc) Bool.false_ne_true) fun _ => hf

end Guards

/-- The operation has passed its checks and works on the row of the app. -/
structure Admitted (s : Service τ) (o : Operation) (app : String) : Prop where
  connected : s.link.connected = true
  enabled : ¬ o.Disabled s.options
  provided : ¬ o.Lacking
  target : target s o = some app
  /-- An instance is the caller's own. -/
  own : ∀ caller token, o = .stopInstance caller token →
    s.registry.resolve token = some ⟨app, caller.process⟩

/-- The operation has nothing to do: it does not work on any row, or there is no handler to
unbind. -/
def Idle (s : Service τ) (o : Operation) : Prop :=
  o = .version ∨ ∃ app, o = .unregisterEvents app ∧ s.link.connected = true ∧
    s.registry.row? app = none

/-! ## Tasks -/

/-- The result of a request for a one-time password and a token. -/
def otpOf (request : OtpRequest) (reply : Applet.Reply) : Except Status (Negotiated Otp) :=
  (reply.asOtp request.otpCapacity request.tokenCapacity).map
    (Negotiated.map fun out => ⟨out.1, out.2⟩)

/-- The operation makes a request about the app, with the handle that the caller gives, and reads
the reply. -/
inductive Inquiry : (o : Operation) → String → Option UInt32 → (UInt32 → Applet.Request) →
    (Applet.Reply → Except Status o.Answer) → Prop
  | sendData (app : String) (handle : Option UInt32) (dataType : UInt32) (data : Bytes) :
    Inquiry (.sendData app handle dataType data) app handle
      (fun handle => .sendData app handle dataType data) Applet.Reply.asDone
  | receiveData (app : String) (handle : Option UInt32) (dataType capacity : UInt32) :
    Inquiry (.receiveData app handle dataType capacity) app handle
      (fun handle => .receiveData app handle dataType capacity) (Applet.Reply.asData capacity)
  | sendAndReceive (app : String) (handle : Option UInt32) (dataType : UInt32) (data : Bytes)
      (capacity : UInt32) :
    Inquiry (.sendAndReceive app handle dataType data capacity) app handle
      (fun handle => .sendAndReceive app handle dataType data capacity)
      (Applet.Reply.asData capacity)
  | capabilities (app : String) (capType capacity : UInt32) :
    Inquiry (.capabilities app capType capacity) app none
      (fun _ => .capabilities app capType capacity) (Applet.Reply.asData capacity)
  | getOtp (app : String) (request : OtpRequest) :
    Inquiry (.getOtp app request) app request.handle
      (fun handle => .getOtp app handle request.token request.vendorData request.otpCapacity
        request.tokenCapacity) (otpOf request)
  | otpsStatus (app : String) (handle : Option UInt32) (statusType : UInt32) :
    Inquiry (.otpsStatus app handle statusType) app handle
      (fun handle => .otpsStatus app handle statusType) Applet.Reply.asValue

section Inquiry

variable {handle : Option UInt32} {request : UInt32 → Applet.Request}
  {read : Applet.Reply → Except Status o.Answer}

theorem Inquiry.request_app (h : Inquiry o app handle request read) (id : UInt32) :
    (request id).app = app := by
  cases h <;> rfl

theorem Inquiry.request_seats (h : Inquiry o app handle request read) (id : UInt32) :
    (request id).seats = false := by
  cases h <;> rfl

theorem Inquiry.request? (h : Inquiry o app handle request read) :
    o.request? = some (request (handle.getD noHandle)) := by
  cases h <;> rfl

/-- If it carries a handle, it is this one. -/
theorem Inquiry.handle_of_request (h : Inquiry o app handle request read) {id id' : UInt32}
    (hh : (request id).handle? = some id') : id = id' := by
  cases h <;> cases hh <;> rfl

theorem Inquiry.handle? (h : Inquiry o app handle request read) : o.handle? = handle := by
  cases h <;> rfl

theorem Inquiry.opens (h : Inquiry o app handle request read) : o.opens = true := by
  cases h <;> rfl

/-- The only check in front of it, besides the one of the link, is that of its arguments. -/
theorem Inquiry.admitted (h : Inquiry o app handle request read)
    (hc : s.link.connected = true) (hp : ¬ o.Lacking) : Admitted s o app := by
  cases h <;> exact ⟨hc, id, hp, rfl, by rintro _ _ ⟨⟩⟩

end Inquiry

variable [Transport τ]

/-- What an operation does on the row of its app. -/
inductive Task : (o : Operation) → String → OnRow τ o.Answer → Prop
  | inquiry {o : Operation} {app : String} {handle : Option UInt32}
      {request : UInt32 → Applet.Request} {read : Applet.Reply → Except Status o.Answer}
      (h : Inquiry o app handle request read) :
    Task o app do
      let handle ← sessionHandle handle
      ensureLoaded
      ofExcept (read (← call (request handle)))
  | startProvisioning (app : String) :
    Task (.startProvisioning app) app do
      if (← get).row.provisioning.isSome then throw .invalidRequest
      ensureLoaded
      let handle ← ofExcept (← call (.startProvisioning app)).asHandle
      changeRow (Row.beginProvisioning handle)
      return handle
  | endProvisioning (app : String) (handle capacity : UInt32) :
    Task (.endProvisioning app handle capacity) app do
      ofExcept ((← get).row.expectProvisioning handle)
      match (← call (.endProvisioning app handle capacity)).asData capacity with
      | .ok (.complete token) => do
        modifyRow Row.endProvisioning
        return .complete token
      | .ok (.tooSmall required) => return .tooSmall required
      | .error s => do
        if s.category = .applet then modifyRow Row.endProvisioning
        throw s
  | install (app source : String) :
    Task (.install app source) app do
      ofExcept (← call (.install app source)).asDone
      ensureLoaded
  | uninstall (app : String) :
    Task (.uninstall app) app do
      unsubscribeQuietly
      closeQuietly
      ofExcept (← call (.uninstall app)).asDone
      modifyRow Row.retire
  | appInstance (app : String) :
    Task (.appInstance app) app do
      let row := (← get).row
      if !row.loaded || row.shared then throw .appletSessionUnavailable
      let id ← issueToken (row.owner.getD .self)
      return (id, nonShared)
  | registerEvents (app : String) (h : Handler) :
    Task (.registerEvents app h) app do
      if ← ofExcept ((← get).row.checkBind h) then return
      makeExclusive
      ensureLoaded
      subscribe
      changeRow (Row.bind h)
  | unregisterEvents (app : String) :
    Task (.unregisterEvents app) app do
      unsubscribeQuietly
      modifyRow Row.unbind
  | startInstance (caller : Caller) (app : String) :
    Task (.startInstance caller app none) app do
      if (← get).row.token.isSome then throw .instanceAlreadyAvailable
      ensureLoaded
      issueToken caller.process
  | startListening (caller : Caller) (app : String) (h : Handler) :
    Task (.startInstance caller app (some h)) app do
      if (← get).row.token.isSome then throw .instanceAlreadyAvailable
      let _ ← ofExcept ((← get).row.checkBind h)
      makeExclusive
      ensureLoaded
      subscribe
      changeRow (Row.bind h)
      issueToken caller.process
  | stopInstance (caller : Caller) (app : String) (token : UInt32) :
    Task (.stopInstance caller token) app do
      if (← get).row.token ≠ some token then throw .invalidInstanceId
      unsubscribeQuietly
      closeQuietly
      modifyRow Row.retire

/-- An inquiry has no other task. -/
theorem Inquiry.task {handle : Option UInt32} {request : UInt32 → Applet.Request}
    {read : Applet.Reply → Except Status o.Answer} (h : Inquiry o app handle request read)
    {app' : String} {x : OnRow τ o.Answer} (ht : Task o app' x) :
    app' = app ∧ x = (do
      let handle ← sessionHandle handle
      ensureLoaded
      ofExcept (read (← call (request handle)))) := by
  cases ht with
  | inquiry h' =>
    cases h <;> cases h' <;> exact ⟨rfl, rfl⟩
  | _ => cases h

/-! ## Operations -/

section Operations

variable {Q : Except Status o.Answer → Service τ → Prop}

/-- Behind its checks an inquiry does its task. -/
theorem ends_inquiry {handle : Option UInt32} {request : UInt32 → Applet.Request}
    {read : Applet.Reply → Except Status o.Answer} (h : Inquiry o app handle request read)
    (hp : ¬ o.Lacking) (hrefused : ∀ e, e ≠ .success → Q (.error e) s)
    (htask : ∀ app x, Admitted s o app → Task o app x →
      Ends x (s.turn app) fun r t => Q r (s.settled app t)) :
    Ends (do
      requireInit
      onRow app do
        let handle ← sessionHandle handle
        ensureLoaded
        ofExcept (read (← call (request handle)))) s Q :=
  guards_requireInit.ends (fun _ => hrefused _ nofun) fun hc =>
    htask app _ (h.admitted hc hp) (.inquiry h)

/-- Every operation other than connecting and tearing down is refused, has nothing to do, or does
its task. -/
theorem ends_perform_of_tasks (hi : o ≠ .init) (hd : o ≠ .deinit)
    (hrefused : ∀ e, e ≠ .success → Q (.error e) s) (hidle : ∀ a, Idle s o → Q (.ok a) s)
    (htask : ∀ app x, Admitted s o app → Task o app x →
      Ends x (s.turn app) fun r t => Q r (s.settled app t)) :
    Ends (perform o) s Q := by
  cases o with
  | init => exact absurd rfl hi
  | deinit => exact absurd rfl hd
  | version => exact hidle _ (.inl rfl)
  | startProvisioning app =>
    refine guards_requireInit.ends (fun _ => hrefused _ (by decide)) fun hc => ?_
    exact (htask app _ ⟨hc, id, id, rfl, by rintro _ _ ⟨⟩⟩ (.startProvisioning app) :)
  | endProvisioning app handle capacity =>
    refine guards_requireInit.ends (fun _ => hrefused _ (by decide)) fun hc => ?_
    exact ends_onExisting_of (hrefused _ (by decide))
      (htask app _ ⟨hc, id, id, rfl, by rintro _ _ ⟨⟩⟩ (.endProvisioning app handle capacity))
  | sendData app handle dataType data =>
    refine guards_requireInit.ends (fun _ => hrefused _ (by decide)) fun hc => ?_
    refine ends_reject (hrefused _ (by decide)) fun hp => ?_
    have hinquiry := Inquiry.sendData app handle dataType data
    exact (htask app _ (hinquiry.admitted hc hp) (.inquiry hinquiry) :)
  | receiveData app handle dataType capacity =>
    show Ends (receiveData app handle dataType capacity) s Q
    refine ends_reject (hrefused _ (by decide)) fun hp => ?_
    unfold dataCall
    exact (ends_inquiry (.receiveData app handle dataType capacity) hp hrefused htask :)
  | sendAndReceive app handle dataType data capacity =>
    show Ends (sendAndReceive app handle dataType data capacity) s Q
    refine ends_reject (hrefused _ (by decide)) fun hp => ?_
    unfold dataCall
    exact (ends_inquiry (.sendAndReceive app handle dataType data capacity) hp hrefused htask :)
  | capabilities app capType capacity =>
    show Ends (capabilities app capType capacity) s Q
    refine ends_reject (hrefused _ (by decide)) fun hp => ?_
    unfold dataCall
    exact (ends_inquiry (.capabilities app capType capacity) hp hrefused htask :)
  | install app source =>
    refine guards_requireInstall.ends (fun _ => hrefused _ (by decide)) fun hon => ?_
    refine guards_requireInit.ends (fun _ => hrefused _ (by decide)) fun hc => ?_
    have he : ¬ Operation.Disabled s.options (.install app source) :=
      fun hoff => Bool.false_ne_true (hoff.symm.trans hon)
    exact (htask app _ ⟨hc, he, id, rfl, by rintro _ _ ⟨⟩⟩ (.install app source) :)
  | uninstall app =>
    refine guards_requireInstall.ends (fun _ => hrefused _ (by decide)) fun hon => ?_
    refine guards_requireInit.ends (fun _ => hrefused _ (by decide)) fun hc => ?_
    have he : ¬ Operation.Disabled s.options (.uninstall app) :=
      fun hoff => Bool.false_ne_true (hoff.symm.trans hon)
    exact (htask app _ ⟨hc, he, id, rfl, by rintro _ _ ⟨⟩⟩ (.uninstall app) :)
  | getOtp app request =>
    refine ends_reject (hrefused _ (by decide)) fun hcapacity => ?_
    refine ends_reject (hrefused _ (by decide)) fun htoken => ?_
    have hread (reply : Applet.Reply) : (do
        let out ← ofExcept (reply.asOtp request.otpCapacity request.tokenCapacity)
        return out.map fun out => ⟨out.1, out.2⟩ : OnRow τ (Negotiated Otp)) =
        ofExcept (otpOf request reply) := by
      unfold otpOf
      cases reply.asOtp request.otpCapacity request.tokenCapacity <;> rfl
    simp only [hread]
    exact (ends_inquiry (.getOtp app request) (not_or.mpr ⟨hcapacity, htoken⟩) hrefused htask :)
  | otpsStatus app handle statusType =>
    exact (ends_inquiry (.otpsStatus app handle statusType) id hrefused htask :)
  | appInstance app =>
    refine guards_requireInit.ends (fun _ => hrefused _ (by decide)) fun hc => ?_
    exact ends_onExisting_of (hrefused _ (by decide))
      (htask app _ ⟨hc, id, id, rfl, by rintro _ _ ⟨⟩⟩ (.appInstance app))
  | registerEvents app h =>
    refine guards_requireEvents.ends (fun _ => hrefused _ (by decide)) fun hon => ?_
    refine guards_requireInit.ends (fun _ => hrefused _ (by decide)) fun hc => ?_
    have he : ¬ Operation.Disabled s.options (.registerEvents app h) :=
      fun hoff => Bool.false_ne_true (hoff.symm.trans hon)
    exact (htask app _ ⟨hc, he, id, rfl, by rintro _ _ ⟨⟩⟩ (.registerEvents app h) :)
  | unregisterEvents app =>
    refine guards_requireInit.ends (fun _ => hrefused _ (by decide)) fun hc => ?_
    refine ends_look ?_
    split
    · rename_i hnone
      exact hidle _ (.inr ⟨app, rfl, hc, Option.isNone_iff_eq_none.mp hnone⟩)
    · exact (htask app _ ⟨hc, id, id, rfl, by rintro _ _ ⟨⟩⟩ (.unregisterEvents app) :)
  | startInstance caller app handler =>
    cases handler with
    | none =>
      refine guards_requireInit.ends (fun _ => hrefused _ (by decide)) fun hc => ?_
      exact (htask app _ ⟨hc, id, id, rfl, by rintro _ _ ⟨⟩⟩ (.startInstance caller app) :)
    | some h =>
      refine guards_requireEvents.ends (fun _ => hrefused _ (by decide)) fun hon => ?_
      refine guards_requireInit.ends (fun _ => hrefused _ (by decide)) fun hc => ?_
      have he : ¬ Operation.Disabled s.options (.startInstance caller app (some h)) :=
        fun hoff => Bool.false_ne_true (hoff.symm.trans hon)
      exact (htask app _ ⟨hc, he, id, rfl, by rintro _ _ ⟨⟩⟩ (.startListening caller app h) :)
  | stopInstance caller token =>
    refine guards_requireInit.ends (fun _ => hrefused _ (by decide)) fun hc => ?_
    refine ends_look ?_
    cases hr : s.registry.resolve token with
    | none => exact hrefused _ (by decide)
    | some record =>
      obtain ⟨app, owner⟩ := record
      refine ends_reject (hrefused _ (by decide)) fun howner => ?_
      obtain rfl : owner = caller.process := Decidable.not_not.mp howner
      have hadmitted : Admitted s (.stopInstance caller token) app := by
        refine ⟨hc, id, id, by rw [target, hr]; rfl, ?_⟩
        rintro _ _ ⟨⟩
        exact hr
      exact ends_onExisting_of (hrefused _ (by decide))
        (htask app _ hadmitted (.stopInstance caller app token))

end Operations

end Service

end AppletGateway
