import AppletGateway.Proofs.Attended
import AppletGateway.Proofs.Turns

/-!
# Provisioning handles on the device

The device gives out handles from a counter of 32 bits that starts over when it overflows. As long
as fewer requests to start provisioning have reached it than the counter has values, every live
handle is below the counter, so that a new one is never a handle that is in use.

A request drops only handles of the app that it is about, and only a request to close or uninstall
this app, or one that ends the provisioning and has its token for an answer.

Results:
* `Device.Numbered.handle`: live handles stay below the counter.
* `Device.get?_handle_of_ne`: a request leaves the handles of other apps alone.
* `Device.provisioning_handle`: most requests leave all handles alone.
-/

namespace AppletGateway

open Applet (noHandle)

/-- Whether a request is for a new handle. -/
def Applet.Request.starts : Applet.Request → Bool
  | startProvisioning _ => true
  | _ => false

/-- Whether a request can change the handles of the device. -/
def Applet.Request.provisions : Applet.Request → Bool
  | startProvisioning _ | endProvisioning .. | closeSession _ | uninstall _ => true
  | _ => false

namespace Device

variable {d : Device} {Q : Except Applet.Reply Applet.Reply → Device → Prop}

/-! ## Answers -/

/-- A request is refused at once or answered. -/
theorem handle_cases {P : Applet.Reply → Device → Prop} (q : Applet.Request)
    (hrefused : ∀ code, d.refuseNext = some code →
      P (.failed code) { d with received := d.received ++ [q], refuseNext := none })
    (hanswered : d.refuseNext = none →
      Ends (answer q) { d with received := d.received ++ [q] }
        fun r d' => P (match r with | .ok reply => reply | .error reply => reply) d') :
    P (d.handle q).1 (d.handle q).2 := by
  simp only [handle]
  cases hr : d.refuseNext with
  | some code => exact hrefused code hr
  | none =>
    have h := hanswered hr
    unfold Ends at h
    rw [hr] at h
    dsimp only
    generalize (answer q).run _ = out at h ⊢
    rcases out with ⟨reply | reply, d'⟩ <;> exact h

theorem ends_requireOpen {app : String} {Q : Except Applet.Reply Bool → Device → Prop} :
    Ends (requireOpen app) d Q = match d.sessions.get? app with
      | some shared => Q (.ok shared) d
      | none => Q (.error (.ofStatus .appletUnexpectedCall)) d := by
  simp only [requireOpen, ends_bind, ends_get, andThen_ok]
  cases d.sessions.get? app <;> rfl

theorem ends_requireHandle {app : String} {handle : UInt32}
    {Q : Except Applet.Reply Unit → Device → Prop} (hok : handle = noHandle ∨
      (∃ token, d.provisioning.get? handle = some (app, token)) → Q (.ok ()) d)
    (herror : Q (.error (.ofStatus .appletInvalidHandle)) d) :
    Ends (requireHandle app handle) d Q := by
  simp only [requireHandle, ends_ite]
  split
  · rename_i h
    exact hok (.inl h)
  · simp only [ends_bind, ends_get, andThen_ok]
    cases hp : d.provisioning.get? handle with
    | none => exact herror
    | some p =>
      obtain ⟨owner, token⟩ := p
      simp only [ends_ite]
      split
      · rename_i h
        exact hok (.inr ⟨token, by rw [hp, h]⟩)
      · exact herror

/-- A request that needs a session, and a handle if it has one, is refused or goes on. -/
theorem ends_admitted {α : Type} {app : String} {handle : UInt32} {x : Answering α}
    {Q : Except Applet.Reply α → Device → Prop} (hrefused : ∀ s, Q (.error (.ofStatus s)) d)
    (hx : ∀ shared, d.sessions.get? app = some shared → Ends x d Q) :
    Ends (do
      let _ ← requireOpen app
      requireHandle app handle
      x) d Q := by
  simp only [ends_bind, ends_requireOpen]
  cases hopen : d.sessions.get? app with
  | none => exact hrefused _
  | some shared =>
    dsimp only
    rw [andThen_ok, ends_bind]
    exact ends_requireHandle (fun _ => hx shared hopen) (hrefused _)

/-! ## What a request does to the handles -/

/-- The ways in which an answer leaves the handles and the counter. -/
inductive Reissued (q : Applet.Request) (d : Device) : Applet.Reply → Device → Prop
  /-- Nothing has changed; a request for a new handle has failed then. -/
  | same {reply : Applet.Reply} {d' : Device} (hp : d'.provisioning = d.provisioning)
    (hn : d'.nextHandle = d.nextHandle) (hs : q.starts = false ∨ ∃ code, reply = .failed code) :
    Reissued q d reply d'
  /-- A new handle has been given out. -/
  | issued {app : String} {d' : Device} (hq : q = .startProvisioning app)
    (hp : d'.provisioning = d.provisioning.set (max d.nextHandle firstHandle)
      (app, tokenOf (max d.nextHandle firstHandle)))
    (hn : d'.nextHandle = max d.nextHandle firstHandle + 1) :
    Reissued q d (.handle (max d.nextHandle firstHandle)) d'
  /-- The provisioning has ended, and the answer is its token. -/
  | ended {app : String} {handle capacity : UInt32} {token : Bytes} {d' : Device}
    (hq : q = .endProvisioning app handle capacity)
    (howner : ∃ token, d.provisioning.get? handle = some (app, token))
    (hlen : token.length ≤ capacity.toNat)
    (hp : d'.provisioning = d.provisioning.erase handle) (hn : d'.nextHandle = d.nextHandle) :
    Reissued q d (.data token) d'
  /-- The session has been closed. -/
  | closed {app : String} {d' : Device} (hq : q = .closeSession app ∨ q = .uninstall app)
    (hp : d'.provisioning = d.provisioning.filter fun _ p => p.1 ≠ app)
    (hn : d'.nextHandle = d.nextHandle) : Reissued q d .done d'

/-- Two states of the device that differ neither in the events raised nor in the operator's settings
nor in the record of requests. -/
structure SameSettings (d d' : Device) : Prop where
  pending : d'.pending = d.pending
  offline : d'.offline = d.offline
  refuseNext : d'.refuseNext = d.refuseNext
  garbleNext : d'.garbleNext = d.garbleNext
  received : d'.received = d.received

/-- What an answer to `q` leaves alone: the settings and the record of requests, and unless `q` is
about them the handles and the sessions. -/
structure Spared (q : Applet.Request) (d d' : Device) : Prop where
  settings : d.SameSettings d'
  handles : q.provisions = false → d'.provisioning = d.provisioning ∧ d'.nextHandle = d.nextHandle
  seats : q.seats = false → d'.sessions = d.sessions ∧ d'.subscribed = d.subscribed

section Calm

variable {I : Device → Prop} {α : Type}

theorem keeps_requireOpen (app : String) : Keeps I (requireOpen app) := by
  intro d hd
  rw [ends_requireOpen]
  split <;> exact hd

theorem keeps_requireHandle (app : String) (handle : UInt32) : Keeps I (requireHandle app handle) :=
  fun _ hd => ends_requireHandle (fun _ => hd) hd

/-- Answering keeps what depends on what it leaves alone only. -/
theorem keeps_answer {q : Applet.Request} (hI : ∀ d d' : Device, d.Spared q d' → I d → I d') :
    Keeps I (answer q) := by
  have hedit {α : Type} {f : Device → Device} (hf : ∀ d, Spared q d (f d)) (a : α) :
      Keeps I (do
        modify f
        return a : ExceptT Applet.Reply (StateM Device) α) :=
    (keeps_modify fun d => hI d (f d) (hf d)).bind fun _ => keeps_pure a
  cases q with
  | closeSession app =>
    exact hedit (fun _ => by exact ⟨⟨rfl, rfl, rfl, rfl, rfl⟩, nofun, nofun⟩) _
  | uninstall app =>
    refine keeps_get fun d hd => ?_
    refine keeps_ite keeps_throw_bind ?_ d hd
    exact hedit (fun _ => by exact ⟨⟨rfl, rfl, rfl, rfl, rfl⟩, nofun, nofun⟩) _
  | startProvisioning app =>
    refine (keeps_requireOpen app).bind fun _ => keeps_get fun d hd => ?_
    refine Keeps.bind (keeps_modify ?_) (fun _ => keeps_pure _) d hd
    exact fun d => hI d _ ⟨⟨rfl, rfl, rfl, rfl, rfl⟩, nofun, fun _ => ⟨rfl, rfl⟩⟩
  | endProvisioning app handle capacity =>
    refine keeps_ite keeps_throw_bind ?_
    refine (keeps_requireHandle app handle).bind fun _ => keeps_get fun d hd => ?_
    cases d.provisioning.get? handle with
    | none => exact hd
    | some p =>
      refine keeps_ite (keeps_pure _) ?_ d hd
      exact hedit (fun _ => by exact ⟨⟨rfl, rfl, rfl, rfl, rfl⟩, nofun, fun _ => ⟨rfl, rfl⟩⟩) _
  | openSession app shared =>
    refine keeps_get fun d hd => ?_
    refine keeps_ite keeps_throw_bind ?_ d hd
    exact hedit (fun _ => by exact ⟨⟨rfl, rfl, rfl, rfl, rfl⟩, fun _ => ⟨rfl, rfl⟩, nofun⟩) _
  | install app source =>
    refine keeps_ite keeps_throw_bind ?_
    exact hedit (fun _ => by
      exact ⟨⟨rfl, rfl, rfl, rfl, rfl⟩, fun _ => ⟨rfl, rfl⟩, fun _ => ⟨rfl, rfl⟩⟩) _
  | unsubscribe app =>
    exact hedit (fun _ => by exact ⟨⟨rfl, rfl, rfl, rfl, rfl⟩, fun _ => ⟨rfl, rfl⟩, nofun⟩) _
  | subscribe app =>
    refine (keeps_requireOpen app).bind fun _ => keeps_ite keeps_throw_bind ?_
    exact hedit (fun _ => by exact ⟨⟨rfl, rfl, rfl, rfl, rfl⟩, fun _ => ⟨rfl, rfl⟩, nofun⟩) _
  | sendData app handle dataType data =>
    refine (keeps_requireOpen app).bind fun _ => (keeps_requireHandle app handle).bind fun _ => ?_
    exact hedit (fun _ => by
      exact ⟨⟨rfl, rfl, rfl, rfl, rfl⟩, fun _ => ⟨rfl, rfl⟩, fun _ => ⟨rfl, rfl⟩⟩) _
  | receiveData app handle dataType capacity =>
    refine (keeps_requireOpen app).bind fun _ => (keeps_requireHandle app handle).bind fun _ => ?_
    refine keeps_get fun d hd => ?_
    cases d.mailbox.get? (app, dataType) with
    | none => exact hd
    | some data =>
      refine keeps_ite (keeps_pure _) ?_ d hd
      exact hedit (fun _ => by
        exact ⟨⟨rfl, rfl, rfl, rfl, rfl⟩, fun _ => ⟨rfl, rfl⟩, fun _ => ⟨rfl, rfl⟩⟩) _
  | sendAndReceive app handle dataType data capacity =>
    refine (keeps_requireOpen app).bind fun _ => (keeps_requireHandle app handle).bind fun _ => ?_
    exact keeps_pure _
  | capabilities app capType capacity =>
    refine (keeps_requireOpen app).bind fun _ => ?_
    split
    · exact keeps_pure _
    · exact keeps_pure _
    · exact keeps_throw _
  | getOtp app handle token vendorData otpCapacity tokenCapacity =>
    refine (keeps_requireOpen app).bind fun _ => keeps_ite keeps_throw_bind ?_
    refine (keeps_requireHandle app handle).bind fun _ => ?_
    have hotp : Keeps I nextOtp := by
      refine Keeps.bind (keeps_modify fun d => ?_) fun _ => keeps_get fun d hd => hd
      exact hI d _ ⟨⟨rfl, rfl, rfl, rfl, rfl⟩, fun _ => ⟨rfl, rfl⟩, fun _ => ⟨rfl, rfl⟩⟩
    refine hotp.bind fun password => ?_
    split <;> exact keeps_pure _
  | otpsStatus app handle statusType =>
    refine (keeps_requireOpen app).bind fun _ => (keeps_requireHandle app handle).bind fun _ => ?_
    exact keeps_pure _

end Calm

/-- Every request leaves the handles and the counter in one of four ways. -/
theorem reissued_handle (d : Device) (q : Applet.Request) :
    Reissued q d (d.handle q).1 (d.handle q).2 := by
  refine handle_cases q (fun code _ => .same rfl rfl (.inr ⟨code, rfl⟩)) fun _ => ?_
  cases hcalm : q.provisions with
  | false =>
    let I (d' : Device) : Prop :=
      d'.provisioning = d.provisioning ∧ d'.nextHandle = d.nextHandle
    have hkeeps : Keeps I (answer q) := keeps_answer fun _ _ hs h =>
      ⟨(hs.handles hcalm).1.trans h.1, (hs.handles hcalm).2.trans h.2⟩
    have hstarts : q.starts = false := by
      cases q <;> first | rfl | cases hcalm
    exact (hkeeps { d with received := d.received ++ [q] } ⟨rfl, rfl⟩).mono
      fun _ _ h => .same h.1 h.2 (.inl hstarts)
  | true =>
    cases q with
    | closeSession app => exact .closed (.inl rfl) rfl rfl
    | uninstall app =>
      simp only [answer, ends_bind, ends_get, andThen_ok, ends_ite]
      split
      · exact .same rfl rfl (.inl rfl)
      · exact .closed (.inr rfl) rfl rfl
    | startProvisioning app =>
      simp only [answer, ends_bind, ends_requireOpen]
      split
      · exact .issued rfl rfl rfl
      · exact .same rfl rfl (.inr ⟨_, rfl⟩)
    | endProvisioning app handle capacity =>
      simp only [answer, ends_ite]
      split
      · exact .same rfl rfl (.inl rfl)
      · rename_i hne
        simp only [ends_bind]
        refine ends_requireHandle (fun howner => ?_) (.same rfl rfl (.inl rfl))
        obtain ⟨token, howner⟩ := howner.resolve_left hne
        have howner : d.provisioning.get? handle = some (app, token) := howner
        simp only [andThen_ok, ends_bind, ends_get, howner, ends_ite]
        split
        · exact .same rfl rfl (.inl rfl)
        · exact .ended rfl ⟨token, howner⟩ (by omega) rfl rfl
    | _ => cases hcalm

/-- What a request leaves alone beside the handles, except that a refusal happens once and that the
request is added to the record. -/
theorem sameSettings_handle (d : Device) (q : Applet.Request) :
    SameSettings { d with received := d.received ++ [q], refuseNext := none } (d.handle q).2 := by
  refine handle_cases (P := fun _ => SameSettings _) q (fun _ _ => ⟨rfl, rfl, rfl, rfl, rfl⟩)
    fun hr => ?_
  have hkeeps : Keeps (SameSettings { d with received := d.received ++ [q], refuseNext := none })
      (answer q) :=
    keeps_answer fun _ _ ⟨hs, _, _⟩ h => ⟨hs.pending.trans h.pending, hs.offline.trans h.offline,
      hs.refuseNext.trans h.refuseNext, hs.garbleNext.trans h.garbleNext,
      hs.received.trans h.received⟩
  exact hkeeps { d with received := d.received ++ [q] } ⟨rfl, rfl, hr, rfl, rfl⟩

/-- What a request leaves alone beside the handles: the settings, except that a refusal happens
once, and the record of requests, to which it is added. -/
theorem settings_handle (d : Device) (q : Applet.Request) :
    (d.handle q).2.offline = d.offline ∧ (d.handle q).2.refuseNext = none ∧
      (d.handle q).2.garbleNext = d.garbleNext ∧ (d.handle q).2.received = d.received ++ [q] :=
  let h := sameSettings_handle d q
  ⟨h.offline, h.refuseNext, h.garbleNext, h.received⟩

/-! ## Live handles stay below the counter -/

/-- The number of requests for a new handle that have reached the device. -/
def starts (d : Device) : Nat := d.received.countP Applet.Request.starts

/-- The counter of handles has not started over. -/
def Unwrapped (d : Device) : Prop := d.starts + firstHandle.toNat < UInt32.size

/-- The counter is not beyond what the requests account for, and live handles are below it. -/
structure Numbered (d : Device) : Prop where
  counter : d.nextHandle.toNat ≤ d.starts + firstHandle.toNat
  below : ∀ h p, d.provisioning.get? h = some p → h.toNat < d.nextHandle.toNat

theorem starts_handle (d : Device) (q : Applet.Request) :
    (d.handle q).2.starts = d.starts + if q.starts then 1 else 0 := by
  rw [starts, (settings_handle d q).2.2.2, List.countP_append, List.countP_singleton]
  rfl

theorem Unwrapped.of_handle {q : Applet.Request} (h : (d.handle q).2.Unwrapped) : d.Unwrapped := by
  unfold Unwrapped at h ⊢
  rw [starts_handle] at h
  omega

/-- Losing handles keeps the rest below the counter, if that stays where it was. -/
theorem Numbered.of_fewer {d' : Device} (h : d.Numbered) (hstarts : d.starts ≤ d'.starts)
    (hn : d'.nextHandle = d.nextHandle)
    (hp : ∀ a p, d'.provisioning.get? a = some p → d.provisioning.get? a = some p) :
    d'.Numbered := by
  have hcounter := h.counter
  refine ⟨?_, fun a p ha => ?_⟩
  · rw [hn]
    omega
  · rw [hn]
    exact h.below a p (hp a p ha)

/-- Live handles stay below the counter. -/
theorem Numbered.handle {q : Applet.Request} (h : d.Numbered) (hu : (d.handle q).2.Unwrapped) :
    (d.handle q).2.Numbered := by
  have hstarts := starts_handle d q
  have hcounter := h.counter
  have hr := reissued_handle d q
  generalize (d.handle q).1 = reply at hr
  generalize (d.handle q).2 = d' at hu hstarts hr
  have hmore : d.starts ≤ d'.starts := by omega
  cases hr with
  | same hp hn _ => exact h.of_fewer hmore hn fun _ _ ha => hp ▸ ha
  | issued hq hp hn =>
    subst hq
    have hmax := toNat_max d.nextHandle firstHandle
    -- The counter moves on by one as a number too: there are still handles left.
    have hnext : d'.nextHandle.toNat = max d.nextHandle.toNat firstHandle.toNat + 1 := by
      have hone : (1 : UInt32).toNat = 1 := rfl
      unfold Unwrapped at hu
      simp only [Applet.Request.starts, if_true] at hstarts
      have hsize : UInt32.size = 4294967296 := rfl
      rw [hn, UInt32.toNat_add, hmax, hone]
      omega
    refine ⟨?_, fun a p ha => ?_⟩
    · simp only [Applet.Request.starts, if_true] at hstarts
      omega
    · rw [hp, Table.get?_set] at ha
      rw [hnext]
      split at ha
      · rename_i heq
        rw [← heq, hmax]
        omega
      · have := h.below a p ha
        omega
  | ended hq howner hlen hp hn =>
    refine h.of_fewer hmore hn fun a p ha => ?_
    rw [hp, Table.get?_erase] at ha
    split at ha
    · cases ha
    · exact ha
  | closed hq hp hn =>
    refine h.of_fewer hmore hn fun a p ha => ?_
    rw [hp, Table.get?_filter] at ha
    exact (Option.filter_eq_some_iff.mp ha).1

theorem Numbered.of_sameSessions {d' : Device} (h : d.Numbered) (hd : d.SameSessions d') :
    d'.Numbered := by
  refine ⟨?_, fun a p ha => ?_⟩
  · rw [hd.nextHandle, starts, hd.received]
    exact h.counter
  · rw [hd.provisioning] at ha
    rw [hd.nextHandle]
    exact h.below a p ha

theorem Unwrapped.of_received {d' : Device} (h : d'.Unwrapped) (hr : d'.received = d.received) :
    d.Unwrapped := by
  unfold Unwrapped starts at h ⊢
  rwa [hr] at h

theorem Unwrapped.of_sameSessions {d' : Device} (h : d'.Unwrapped) (hd : d.SameSessions d') :
    d.Unwrapped := h.of_received hd.received

/-- A request that does not provision leaves all handles alone. -/
theorem provisioning_handle {q : Applet.Request} (hq : q.provisions = false) :
    (d.handle q).2.provisioning = d.provisioning := by
  have hr := reissued_handle d q
  generalize (d.handle q).1 = reply at hr
  generalize (d.handle q).2 = d' at hr
  cases hr with
  | same hp _ _ => exact hp
  | issued hq' _ _ =>
    subst hq'
    cases hq
  | ended hq' _ _ _ _ =>
    subst hq'
    cases hq
  | closed hq' _ _ => rcases hq' with rfl | rfl <;> cases hq

/-- The counter is ahead of every live handle. -/
def Ahead (d : Device) : Prop :=
  ∀ h p, d.provisioning.get? h = some p → h.toNat < d.nextHandle.toNat

/-- A request leaves the handles of other apps alone. -/
theorem get?_handle_of_ne {q : Applet.Request} (h : d.Ahead) {owner : String} (hne : owner ≠ q.app)
    (a : UInt32) (token : Bytes) : (d.handle q).2.provisioning.get? a = some (owner, token) ↔
      d.provisioning.get? a = some (owner, token) := by
  have hr := reissued_handle d q
  generalize (d.handle q).1 = reply at hr
  generalize (d.handle q).2 = d' at hr
  cases hr with
  | same hp _ _ => rw [hp]
  | @issued app d' hq hp _ =>
    subst hq
    rw [hp, Table.get?_set]
    split
    · -- The new handle is not live yet, and belongs to another app.
      rename_i ha
      refine iff_of_false (fun hnew => hne ?_) fun hlive => ?_
      · exact (congrArg Prod.fst (Option.some.inj hnew)).symm
      · have hmax := toNat_max d.nextHandle firstHandle
        have hlt := h a _ hlive
        rw [← ha] at hlt
        omega
    · exact Iff.rfl
  | @ended app handle capacity token' d' hq howner hlen hp hn =>
    obtain ⟨_, howner⟩ := howner
    subst hq
    rw [hp, Table.get?_erase]
    split
    · rename_i ha
      refine iff_of_false nofun fun hlive => hne ?_
      rw [← ha, howner] at hlive
      exact (congrArg Prod.fst (Option.some.inj hlive)).symm
    · exact Iff.rfl
  | @closed app d' hq hp hn =>
    have happ : owner ≠ app := by
      rcases hq with rfl | rfl <;> exact hne
    rw [hp, Table.get?_filter, Option.filter_eq_some_iff]
    exact and_iff_left (by simp [happ])

end Device

end AppletGateway
