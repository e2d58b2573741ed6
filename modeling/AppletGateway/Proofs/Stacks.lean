import AppletGateway.Proofs.ClientCalls
import AppletGateway.Proofs.Reachable
import AppletGateway.Proofs.Transparency

/-!
# Clients in front of the gateway

A client, the dispatcher that it calls directly, and the gateway behind it in front of the simulated
co-processor. The client is not alone: others call the dispatcher as well, events are collected, and
the device has an operator.

Results:
* `Client.Outlasts.perform`: what requests keep, and what does not depend on the tables of the
  client, is kept by every call.
* `Client.Reachable.fronts`: whatever the client and the others have called, the gateway is in a
  reachable state, and the client speaks its language.
-/

namespace AppletGateway

open Envelope (blobLimit)

/-- A transaction leaves the gateway in a reachable state. -/
theorem Service.Reachable.transact {d : Dispatcher (Service Attended)} (h : d.operator.Reachable)
    (caller : Caller) (code : UInt32) (envelope : Envelope) :
    ((Dispatcher.transact caller code envelope).run d).2.operator.Reachable := by
  rw [Dispatcher.operator_transact]
  split
  · exact h
  · rename_i request _
    rw [Dispatcher.operator_dispatch]
    split
    · exact h
    · rename_i o _
      exact h.move (.perform o)

namespace Client

/-! ## What every call keeps -/

section Every

variable {σ : Type} [Operator σ] {α : Type} {I : Client (Direct σ) → Prop} {q : Request}

/-- A change of the tables of a client. -/
def Local (f : Client (Direct σ) → Client (Direct σ)) : Prop :=
  ∀ c, (f c).remote = c.remote ∧ (f c).descriptor = c.descriptor ∧
    (f c).initialLength = c.initialLength

theorem local_releaseUnlessBound (h : Handler) : Local (σ := σ) (releaseUnlessBound h) := by
  intro c
  rw [releaseUnlessBound_eq_letGo, letGo_direct]
  exact ⟨rfl, rfl, rfl⟩

theorem local_unbind (app : String) : Local (σ := σ) (unbind app) := by
  intro c
  rw [unbind]
  cases c.bindings.get? app with
  | none => exact ⟨rfl, rfl, rfl⟩
  | some h => exact local_releaseUnlessBound h _

theorem local_unbindAll : Local (σ := σ) unbindAll := by
  intro c
  rw [unbindAll_eq_letGo, letGo_direct]
  exact ⟨rfl, rfl, rfl⟩

/-- The property outlasts requests, and changes of the tables do not matter. -/
structure Outlasts (I : Client (Direct σ) → Prop) : Prop where
  tables : ∀ {f : Client (Direct σ) → Client (Direct σ)}, Local f → ∀ c, I c → I (f c)
  sent : ∀ (c : Client (Direct σ)) (q : Request), I c → I { c with remote := c.sent q }

variable (hI : Outlasts I)
include hI

theorem Outlasts.call (q : Request) : Keeps I (call q : Run (Direct σ) Reply) :=
  fun c hc => ends_call.mpr (hI.sent c q hc)

theorem Outlasts.callBody (q : Request) : Keeps I (callBody q : Run (Direct σ) Reply.Body) :=
  fun c hc => ends_callBody.mpr (hI.sent c q hc)

theorem Outlasts.callUnit (q : Request) : Keeps I (callUnit q : Run (Direct σ) Unit) :=
  fun c hc => ends_callUnit.mpr (hI.sent c q hc)

theorem Outlasts.edit {f : Client (Direct σ) → Client (Direct σ)} (hf : Local f) :
    Keeps I (modify f : Run (Direct σ) PUnit) := keeps_modify (hI.tables hf)

theorem Outlasts.callThen (q : Request) {after : Client (Direct σ) → Client (Direct σ)}
    (hafter : Local after) : Keeps I (performUnit (callThen q after)) :=
  keeps_performUnit ((hI.callUnit q).bind fun _ => hI.edit hafter)

theorem Outlasts.registerEvents (app : String) (h : Handler) :
    Keeps I (performUnit (registerEvents app h) : Run (Direct σ) Answer) := by
  refine keeps_performUnit (Keeps.tryCatch ?_ fun e => ?_)
  · exact (hI.callUnit _).bind fun _ => hI.edit fun _ => ⟨rfl, rfl, rfl⟩
  · exact (hI.edit (local_releaseUnlessBound h)).bind fun _ => keeps_throw e

theorem Outlasts.unregisterEvents (app : String) :
    Keeps I (performUnit (unregisterEvents app) : Run (Direct σ) Answer) := by
  refine keeps_performUnit (Keeps.tryCatch ?_ fun e => ?_)
  · exact (hI.callUnit _).bind fun _ => hI.edit (local_unbind app)
  · exact keeps_ite ((hI.edit (local_unbind app)).bind fun _ => keeps_throw e) (keeps_throw e)

theorem Outlasts.callValue (q : Request) : Keeps I (callValue q : Run (Direct σ) UInt32) :=
  (hI.callBody q).bind fun body => by
    cases body with
    | value _ | handle _ => exact keeps_pure _
    | _ => exact keeps_throw _

theorem Outlasts.stopInstance (token : UInt32) :
    Keeps I (performUnit (stopInstance token) : Run (Direct σ) Answer) := by
  refine keeps_performUnit ((hI.callUnit _).bind fun _ => keeps_get fun c hc => ?_)
  split
  · rename_i app _
    exact hI.edit (fun c => local_unbind app { c with instances := c.instances.erase token }) c hc
  · exact hc

theorem Outlasts.startInstance (app : String) (handler : Option Handler) :
    Keeps I (startInstance app handler : Run (Direct σ) UInt32) := by
  have hbind (h : Handler) : Keeps I (modify (bind app h) : Run (Direct σ) PUnit) :=
    hI.edit fun _ => ⟨rfl, rfl, rfl⟩
  have hnote (token : UInt32) : Keeps I (do
      modify fun c => { c with instances := c.instances.set token app }
      return .error token : Run (Direct σ) (Except UInt32 UInt32)) :=
    Keeps.bind (hI.edit fun _ => by exact ⟨rfl, rfl, rfl⟩) fun _ => keeps_pure _
  unfold Client.startInstance
  refine Keeps.bind (Keeps.tryCatch ((hI.callValue _).bind fun token => ?_) fun e => ?_)
    fun out => ?_
  · cases handler with
    | none => exact hnote token
    | some h => exact (hbind h).bind fun _ => hnote token
  · cases handler with
    | none => exact fun _ hc => hc
    | some h => exact (hI.edit (local_releaseUnlessBound h)).bind fun _ _ hc => hc
  · cases out <;> exact keeps_pure _

/-- Every call keeps what outlasts requests. -/
theorem Outlasts.perform (call : Call) : Keeps I (perform call : Run (Direct σ) Answer) := by
  cases call with
  | deinit => exact hI.callThen _ local_unbindAll
  | uninstall app | uninstallOtps app => exact hI.callThen _ (local_unbind app)
  | registerEvents app h => exact hI.registerEvents app h
  | unregisterEvents app => exact hI.unregisterEvents app
  | startInstance app handler => exact (hI.startInstance app handler).bind fun _ => keeps_pure _
  | stopInstance token => exact hI.stopInstance token
  | _ => exact keeps_perform (fun q _ => hI.call q) rfl

end Every

/-! ## Stacks -/

variable {c : Client (Direct (Service Attended))}

/-- The client with the dispatcher in another state. -/
def withDispatcher {σ : Type} (c : Client (Direct σ)) (d : Dispatcher σ) : Client (Direct σ) :=
  { c with remote := { c.remote with dispatcher := d } }

/-- A client and the gateway that it calls, after whatever has happened to them. -/
inductive Reachable : Client (Direct (Service Attended)) → Prop
  /-- The client is made for a gateway that has done nothing yet. -/
  | new (apps : List String) (client : Guid) (options : ServiceOptions)
    (agenda : List (List Control)) (caller : Caller) (initialLength : UInt32) {descriptor : String}
    (hdescriptor : descriptor.utf8ByteSize < blobLimit) :
    Reachable (.new ⟨{ operator := Service.start apps client options agenda
                       descriptor := descriptor }, caller⟩ descriptor initialLength)
  /-- The client makes a call. -/
  | perform {c : Client (Direct (Service Attended))} (h : Reachable c) (call : Call) :
    Reachable ((perform call).run c).2
  /-- Someone else calls the dispatcher. -/
  | transact {c : Client (Direct (Service Attended))} (h : Reachable c) (caller : Caller)
    (code : UInt32) (envelope : Envelope) : Reachable (c.withDispatcher
      ((Dispatcher.transact caller code envelope).run c.remote.dispatcher).2)
  /-- Something happens to the gateway. -/
  | move {c : Client (Direct (Service Attended))} (h : Reachable c) (m : Service.Move) :
    Reachable (c.withDispatcher { c.remote.dispatcher with
      operator := Service.move m c.remote.dispatcher.operator })
  /-- The events handed on are collected. -/
  | collect {c : Client (Direct (Service Attended))} (h : Reachable c) :
    Reachable (c.withDispatcher { c.remote.dispatcher with
      operator := (Service.takeEvents.run c.remote.dispatcher.operator).2 })

/-- The gateway is in a reachable state, it takes requests of the client for what they are, and the
first capacity of the client is a valid one. -/
structure Fronts (c : Client (Direct (Service Attended))) : Prop where
  reachable : c.remote.dispatcher.operator.Reachable
  descriptor : c.descriptor = c.remote.dispatcher.descriptor
  short : c.descriptor.utf8ByteSize < blobLimit
  initialLength : ValidCapacity c.initialLength

theorem Fronts.transact (h : Fronts c) (caller : Caller) (code : UInt32) (envelope : Envelope) :
    Fronts (c.withDispatcher
      ((Dispatcher.transact caller code envelope).run c.remote.dispatcher).2) :=
  have hdescriptor := Dispatcher.descriptor_transact c.remote.dispatcher caller code envelope
  ⟨h.reachable.transact caller code envelope, h.descriptor.trans hdescriptor.symm, h.short,
    h.initialLength⟩

theorem outlasts_fronts : Outlasts Fronts where
  tables {f} hf c h := by
    obtain ⟨hremote, hdescriptor, hinitial⟩ := hf c
    refine ⟨?_, ?_, ?_, ?_⟩
    · rw [hremote]
      exact h.reachable
    · rw [hremote, hdescriptor]
      exact h.descriptor
    · rw [hdescriptor]
      exact h.short
    · rw [hinitial]
      exact h.initialLength
  sent c q h := h.transact c.remote.caller q.opcode.code (q.encode c.descriptor)

/-- The first capacity of a new client is a valid one. -/
theorem validCapacity_clamp (n : UInt32) : ValidCapacity (min (max n 1) maxCapacity) := by
  have hmax : (max n 1).toNat = max n.toNat 1 := toNat_max n 1
  have hmin : (min (max n 1) maxCapacity).toNat = min (max n 1).toNat 65535 := by
    show (if max n 1 ≤ maxCapacity then max n 1 else maxCapacity).toNat = _
    split
    · rename_i h
      have := UInt32.le_iff_toNat_le.mp h
      exact (Nat.min_eq_left this).symm
    · rename_i h
      have := mt UInt32.le_iff_toNat_le.mpr h
      exact (Nat.min_eq_right (Nat.le_of_not_le this)).symm
  rw [ValidCapacity, hmin, hmax]
  omega

/-- Whatever has happened to them, the gateway is in a reachable state and takes requests of the
client for what they are. -/
theorem Reachable.fronts (h : Reachable c) : Fronts c := by
  induction h with
  | new apps client options agenda caller initialLength hdescriptor =>
    exact ⟨.start apps client options agenda, rfl, hdescriptor, validCapacity_clamp initialLength⟩
  | perform _ call ih => exact outlasts_fronts.perform call _ ih
  | transact _ caller code envelope ih => exact ih.transact caller code envelope
  | move _ m ih => exact ⟨ih.reachable.move m, ih.descriptor, ih.short, ih.initialLength⟩
  | collect _ ih => exact ⟨ih.reachable.collect, ih.descriptor, ih.short, ih.initialLength⟩

end Client

end AppletGateway
