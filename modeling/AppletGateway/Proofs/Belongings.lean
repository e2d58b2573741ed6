import AppletGateway.Proofs.Handles

/-!
# Everything on the device belongs to something

The device keeps four tables beside the apps that are installed: the open sessions, the apps that
are subscribed to, the provisioning handles and the data. Nothing in them outlives what it belongs
to. A subscription and a handle need an open session, a session and data need an installed app. So
closing a session takes its subscription and its handles along, uninstalling an app takes its data
along too, and disconnecting closes every session but leaves the data.

Results:
* `Device.Coherent`: the four rules, with one lemma for each kind of change that the device makes.
* `Device.Coherent.handle`: no request breaks them.
* `Channel.coherent_run`: they hold after every run of connecting, sending, receiving, disconnecting
  and what an operator does.
-/

namespace AppletGateway

open Applet (noHandle)

/-! ## The rules -/

namespace Device

/-- Everything on the device belongs to something. -/
structure Coherent (d : Device) : Prop where
  /-- Who is subscribed to has an open session. -/
  subscribed_open : ∀ app, d.isSubscribed app = true → d.isOpen app = true
  /-- Whose session is open is installed. -/
  open_installed : ∀ app, d.isOpen app = true → d.isInstalled app = true
  /-- A live handle is for an app with an open session. -/
  handle_open : ∀ handle app token, d.provisioning.get? handle = some (app, token) →
    d.isOpen app = true
  /-- Data is kept for installed apps. -/
  data_installed : ∀ app dataType data, d.mailbox.get? (app, dataType) = some data →
    d.isInstalled app = true

variable {d : Device} {app : String}

theorem coherent_ofApps (apps : List String) : (ofApps apps).Coherent :=
  ⟨nofun, nofun, nofun, nofun⟩

/-! ## Changes -/

theorem isOpen_iff : d.isOpen app = true ↔ ∃ shared, d.sessions.get? app = some shared :=
  Option.isSome_iff_exists

theorem isSubscribed_iff : d.isSubscribed app = true ↔ app ∈ d.subscribed := List.contains_iff_mem

theorem isInstalled_iff : d.isInstalled app = true ↔ app ∈ d.installed := List.contains_iff_mem

/-- Installed apps and open sessions stay, and nothing is added to what belongs to them. -/
theorem Coherent.of_fewer {d' : Device} (h : d.Coherent) (hinstalled : d'.installed = d.installed)
    (hsessions : d'.sessions = d.sessions)
    (hsubscribed : ∀ app, d'.isSubscribed app = true → d.isSubscribed app = true)
    (hhandles : ∀ handle p, d'.provisioning.get? handle = some p →
      d.provisioning.get? handle = some p)
    (hdata : ∀ k data, d'.mailbox.get? k = some data → d.mailbox.get? k = some data) :
    d'.Coherent := by
  have hopen (app : String) : d'.isOpen app = d.isOpen app := by rw [isOpen, hsessions, ← isOpen]
  have hinst (app : String) : d'.isInstalled app = d.isInstalled app := by
    rw [isInstalled, hinstalled, ← isInstalled]
  refine ⟨fun app hs => ?_, fun app ho => ?_, fun handle app token hp => ?_,
    fun app dataType data hm => ?_⟩
  · rw [hopen]
    exact h.subscribed_open app (hsubscribed app hs)
  · rw [hinst]
    rw [hopen] at ho
    exact h.open_installed app ho
  · rw [hopen]
    exact h.handle_open handle app token (hhandles handle _ hp)
  · rw [hinst]
    exact h.data_installed app dataType data (hdata _ data hm)

theorem Coherent.install (h : d.Coherent) (app : String) : (d.install app).Coherent := by
  have hmore (a : String) (ha : d.isInstalled a = true) : (d.install app).isInstalled a = true :=
    isInstalled_iff.mpr (List.mem_insert_of_mem (isInstalled_iff.mp ha))
  exact ⟨h.subscribed_open, fun a ha => hmore a (h.open_installed a ha), h.handle_open,
    fun a dataType data hm => hmore a (h.data_installed a dataType data hm)⟩

theorem Coherent.opened (h : d.Coherent) (hi : d.isInstalled app = true) (shared : Bool) :
    Coherent { d with sessions := d.sessions.set app shared } := by
  have hopen (a : String) : isOpen { d with sessions := d.sessions.set app shared } a = true ↔
      app = a ∨ d.isOpen a = true := by
    simp only [isOpen_iff, Table.get?_set]
    split <;> simp [*]
  refine ⟨fun a ha => (hopen a).mpr (.inr (h.subscribed_open a ha)), fun a ha => ?_,
    fun handle a token hp => (hopen a).mpr (.inr (h.handle_open handle a token hp)),
    h.data_installed⟩
  rcases (hopen a).mp ha with rfl | ha
  · exact hi
  · exact h.open_installed a ha

theorem isOpen_close {a : String} :
    (d.close app).isOpen a = true ↔ app ≠ a ∧ d.isOpen a = true := by
  simp only [isOpen_iff, close, Table.get?_erase]
  split <;> simp [*]

/-- A session is closed with its subscription and its handles. -/
theorem Coherent.close (h : d.Coherent) (app : String) : (d.close app).Coherent := by
  refine ⟨fun a ha => ?_, fun a ha => h.open_installed a (isOpen_close.mp ha).2,
    fun handle a token hp => ?_, h.data_installed⟩
  · have hmem : a ∈ d.subscribed.filter (· ≠ app) := isSubscribed_iff.mp ha
    obtain ⟨hmem, hne⟩ := List.mem_filter.mp hmem
    have hne : a ≠ app := of_decide_eq_true hne
    exact isOpen_close.mpr ⟨hne.symm, h.subscribed_open a (isSubscribed_iff.mpr hmem)⟩
  · have hp : (d.provisioning.filter fun _ p => p.1 ≠ app).get? handle = some (a, token) := hp
    rw [Table.get?_filter] at hp
    obtain ⟨hp, hne⟩ := Option.filter_eq_some_iff.mp hp
    have hne : a ≠ app := of_decide_eq_true hne
    exact isOpen_close.mpr ⟨hne.symm, h.handle_open handle a token hp⟩

/-- An app is uninstalled with its session and its data. -/
theorem Coherent.uninstall (h : d.Coherent) (app : String) :
    Coherent { d.forget app with installed := d.installed.filter (· ≠ app) } := by
  have hclosed := h.close app
  have hkept {a : String} (hne : a ≠ app) (ha : d.isInstalled a = true) :
      isInstalled { d.forget app with installed := d.installed.filter (· ≠ app) } a = true :=
    isInstalled_iff.mpr (List.mem_filter.mpr ⟨isInstalled_iff.mp ha, decide_eq_true hne⟩)
  refine ⟨hclosed.subscribed_open, fun a ha => ?_, hclosed.handle_open,
    fun a dataType data hm => ?_⟩
  · have ha : app ≠ a ∧ d.isOpen a = true := isOpen_close.mp ha
    exact hkept ha.1.symm (h.open_installed a ha.2)
  · have hm : (d.mailbox.filter fun k _ => k.1 ≠ app).get? (a, dataType) = some data := hm
    rw [Table.get?_filter] at hm
    obtain ⟨hm, hne⟩ := Option.filter_eq_some_iff.mp hm
    exact hkept (of_decide_eq_true hne) (h.data_installed a dataType data hm)

theorem Coherent.issue (h : d.Coherent) (ho : d.isOpen app = true) (handle next : UInt32)
    (token : Bytes) :
    Coherent { d with
      nextHandle := next
      provisioning := d.provisioning.set handle (app, token) } := by
  refine ⟨h.subscribed_open, h.open_installed, fun handle' a token' hp => ?_, h.data_installed⟩
  have hp : (d.provisioning.set handle (app, token)).get? handle' = some (a, token') := hp
  rw [Table.get?_set] at hp
  split at hp
  · cases hp
    exact ho
  · exact h.handle_open handle' a token' hp

theorem Coherent.store (h : d.Coherent) (hi : d.isInstalled app = true) (dataType : UInt32)
    (data : Bytes) : Coherent { d with mailbox := d.mailbox.set (app, dataType) data } := by
  refine ⟨h.subscribed_open, h.open_installed, h.handle_open, fun a dataType' data' hm => ?_⟩
  have hm : (d.mailbox.set (app, dataType) data).get? (a, dataType') = some data' := hm
  rw [Table.get?_set] at hm
  split at hm
  · rename_i hk
    cases hk
    exact hi
  · exact h.data_installed a dataType' data' hm

theorem Coherent.subscribe (h : d.Coherent) (ho : d.isOpen app = true) :
    Coherent { d with subscribed := d.subscribed.insert app } := by
  refine ⟨fun a ha => ?_, h.open_installed, h.handle_open, h.data_installed⟩
  have ha : a ∈ d.subscribed.insert app := isSubscribed_iff.mp ha
  rcases List.mem_insert_iff.mp ha with rfl | ha
  · exact ho
  · exact h.subscribed_open a (isSubscribed_iff.mpr ha)

theorem Coherent.closeAll (h : d.Coherent) : d.closeAll.Coherent :=
  ⟨nofun, nofun, nofun, h.data_installed⟩

/-! ## Requests -/

/-- No answer breaks the rules. -/
theorem keeps_coherent_answer (q : Applet.Request) : Keeps Coherent (answer q) := by
  have hedit {f : Device → Device} {d : Device} (h : (f d).Coherent) (reply : Applet.Reply) :
      Ends (do
        modify f
        return reply : Answering Applet.Reply) d fun _ d' => d'.Coherent := h
  cases q with
  | openSession app shared =>
    refine keeps_get fun d hd => ?_
    rw [ends_ite]
    split
    · exact hd
    · rename_i hi
      exact hedit (hd.opened (by simpa using hi) shared) _
  | closeSession app => exact fun d hd => hedit (hd.close app) _
  | install app source =>
    refine keeps_ite keeps_throw_bind fun d hd => ?_
    exact hedit (hd.install app) _
  | uninstall app =>
    refine keeps_get fun d hd => ?_
    rw [ends_ite]
    split
    · exact hd
    · exact hedit (hd.uninstall app) _
  | startProvisioning app =>
    intro d hd
    simp only [answer, ends_bind, ends_requireOpen]
    cases ho : d.sessions.get? app with
    | none => exact hd
    | some shared =>
      dsimp only
      rw [andThen_ok, ends_bind, ends_get, andThen_ok]
      exact hd.issue (isOpen_iff.mpr ⟨shared, ho⟩) _ _ _
  | endProvisioning app handle capacity =>
    refine keeps_ite keeps_throw_bind ?_
    refine (keeps_requireHandle app handle).bind fun _ => keeps_get fun d hd => ?_
    cases d.provisioning.get? handle with
    | none => exact hd
    | some p =>
      refine keeps_ite (keeps_pure _) (fun d hd => ?_) d hd
      refine hedit (hd.of_fewer rfl rfl (fun _ => id) (fun a p hp => ?_) fun _ _ => id) _
      rw [Table.get?_erase] at hp
      split at hp
      · cases hp
      · exact hp
  | sendData app handle dataType data =>
    intro d hd
    refine ends_admitted (fun _ => hd) fun shared ho => ?_
    exact hedit (hd.store (hd.open_installed app (isOpen_iff.mpr ⟨shared, ho⟩)) dataType data) _
  | receiveData app handle dataType capacity =>
    intro d hd
    refine ends_admitted (fun _ => hd) fun _ _ => ?_
    simp only [ends_bind, ends_get, andThen_ok]
    cases d.mailbox.get? (app, dataType) with
    | none => exact hd
    | some data =>
      refine keeps_ite (keeps_pure _) (fun d hd => ?_) d hd
      refine hedit (hd.of_fewer rfl rfl (fun _ => id) (fun _ _ => id) fun k data hm => ?_) _
      rw [Table.get?_erase] at hm
      split at hm
      · cases hm
      · exact hm
  | sendAndReceive app handle dataType data capacity =>
    exact fun d hd => ends_admitted (fun _ => hd) fun _ _ => hd
  | capabilities app capType capacity =>
    refine (keeps_requireOpen app).bind fun _ => ?_
    split
    · exact keeps_pure _
    · exact keeps_pure _
    · exact keeps_throw _
  | getOtp app handle token vendorData otpCapacity tokenCapacity =>
    refine (keeps_requireOpen app).bind fun _ => keeps_ite keeps_throw_bind ?_
    refine (keeps_requireHandle app handle).bind fun _ => ?_
    have hotp : Keeps Coherent nextOtp := fun d hd =>
      hd.of_fewer rfl rfl (fun _ => id) (fun _ _ => id) fun _ _ => id
    refine hotp.bind fun password => ?_
    split <;> exact keeps_pure _
  | otpsStatus app handle statusType =>
    exact fun d hd => ends_admitted (fun _ => hd) fun _ _ => hd
  | subscribe app =>
    intro d hd
    simp only [answer, ends_bind, ends_requireOpen]
    cases ho : d.sessions.get? app with
    | none => exact hd
    | some shared =>
      dsimp only
      rw [andThen_ok, ends_ite]
      split
      · exact hd
      · exact hedit (hd.subscribe (isOpen_iff.mpr ⟨shared, ho⟩)) _
  | unsubscribe app =>
    refine fun d hd => hedit (hd.of_fewer rfl rfl (fun a ha => ?_) (fun _ _ => id) fun _ _ => id) _
    have ha : a ∈ d.subscribed.filter (· ≠ app) := isSubscribed_iff.mp ha
    exact isSubscribed_iff.mpr (List.mem_filter.mp ha).1

/-- Nothing that the rules are about has changed. -/
theorem Coherent.of_same {d' : Device} (h : d.Coherent) (hinstalled : d'.installed = d.installed)
    (hsessions : d'.sessions = d.sessions) (hsubscribed : d'.subscribed = d.subscribed)
    (hhandles : d'.provisioning = d.provisioning) (hdata : d'.mailbox = d.mailbox) :
    d'.Coherent :=
  h.of_fewer hinstalled hsessions (fun _ hs => by rwa [isSubscribed, hsubscribed] at hs)
    (fun _ _ hp => hhandles ▸ hp) fun _ _ hm => hdata ▸ hm

/-- No request breaks the rules. -/
theorem Coherent.handle (h : d.Coherent) (q : Applet.Request) : (d.handle q).2.Coherent :=
  handle_cases (P := fun _ d' => d'.Coherent) q
    (fun _ _ => h.of_same rfl rfl rfl rfl rfl) fun _ =>
      keeps_coherent_answer q _ (h.of_same rfl rfl rfl rfl rfl)

theorem Coherent.control (h : d.Coherent) (c : Control) : (c.apply d).Coherent := by
  cases c with
  | install app => exact h.install app
  | inject _ _ | offline _ | refuse _ | garble => exact h.of_same rfl rfl rfl rfl rfl

end Device

/-! ## The channel -/

namespace Channel

open Device (Coherent)

variable {c : Channel}

theorem coherent_flushEvents (h : c.device.Coherent) : c.flushEvents.device.Coherent :=
  h.of_same rfl rfl rfl rfl rfl

theorem coherent_sendReply (h : c.device.Coherent) (reply : Applet.Reply) :
    (c.sendReply reply).device.Coherent := h.of_same rfl rfl rfl rfl rfl

theorem coherent_serve (h : c.device.Coherent) (payload : Bytes) :
    (c.serve payload).device.Coherent := by
  unfold serve
  split
  · rename_i q _
    exact coherent_sendReply (h.handle q) _
  · exact coherent_sendReply h _

theorem coherent_serveInbox (limit : Nat) :
    ∀ {c : Channel}, c.device.Coherent → (serveInbox limit c).device.Coherent := by
  induction limit with
  | zero => exact fun h => h
  | succ limit ih =>
    intro c h
    unfold serveInbox
    split
    · rename_i payload inbox _
      exact ih (coherent_serve (c := { c with inbox := inbox }) h payload)
    · exact h

theorem coherent_send (h : c.device.Coherent) (message : Bytes) :
    (c.send message).2.device.Coherent := by
  unfold send
  split
  · exact h
  · split
    · exact h
    · exact coherent_serveInbox _ h

theorem coherent_receive (h : c.device.Coherent) (room : Nat) :
    (c.receive room).2.device.Coherent := by
  unfold receive
  split
  · exact h
  · dsimp only
    split <;> exact coherent_flushEvents h

theorem coherent_connect (h : c.device.Coherent) : c.connect.2.device.Coherent := by
  unfold connect
  split <;> exact h

theorem coherent_disconnect (h : c.device.Coherent) : c.disconnect.device.Coherent := by
  unfold disconnect
  split
  · exact h.closeAll
  · exact h

/-- Something that is done with the channel, or by the operator of its device. -/
inductive Action
  | connect
  | send (message : Bytes)
  | receive (room : Nat)
  | disconnect
  | operate (control : Control)
  deriving DecidableEq

/-- The channel after something has been done. -/
def Action.apply : Action → Channel → Channel
  | connect, c => c.connect.2
  | send message, c => (c.send message).2
  | receive room, c => (c.receive room).2
  | disconnect, c => c.disconnect
  | operate control, c => { c with device := control.apply c.device }

/-- The channel after a run, from a device with some apps installed. -/
def run (apps : List String) (actions : List Action) : Channel :=
  actions.foldl (fun c action => action.apply c) { device := .ofApps apps }

theorem Action.coherent_apply (action : Action) (h : c.device.Coherent) :
    (action.apply c).device.Coherent := by
  cases action with
  | connect => exact coherent_connect h
  | send message => exact coherent_send h message
  | receive room => exact coherent_receive h room
  | disconnect => exact coherent_disconnect h
  | operate control => exact h.control control

/-- Whatever is done with the channel and its device, everything on the device belongs to
something. -/
theorem coherent_run (apps : List String) (actions : List Action) :
    (run apps actions).device.Coherent := by
  unfold run
  generalize hstart : ({ device := .ofApps apps } : Channel) = c
  have h : c.device.Coherent := hstart ▸ Device.coherent_ofApps apps
  clear hstart
  induction actions generalizing c with
  | nil => exact h
  | cons action actions ih => exact ih _ (action.coherent_apply h)

end Channel

end AppletGateway
