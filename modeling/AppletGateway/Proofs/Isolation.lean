import AppletGateway.Proofs.Counters

/-!
# Apps do not touch one another

All apps share one registry, one link, one device, one counter of tokens and one of handles. What an
operation changes is nevertheless confined to the app that it is about. The registry is changed at
one row. The device looks at the app of each request, also where a request carries a handle; only a
handle that is given out anew could be one of another app, and it is not as long as the counter is
ahead.

The connection is common to all apps. If it is lost, so are the sessions of all, and the frame holds
for the rows and the tokens alone. The operator may install an app at any time.

Results:
* `Device.alike_handle`: a request leaves what the device holds for other apps alone.
* `Link.confined_exchange`: so does an exchange, unless the connection is lost.
* `Service.apps_isolated`: an operation leaves the row, the tokens and the entries of other apps
  alone.
-/

namespace AppletGateway

namespace Device

variable {d d' d'' : Device} {q : Applet.Request} {app : String}

/-! ## Goods -/

/-- What the device keeps for an app apart from its session: whether it is installed, and its data
by type. -/
def goods (d : Device) (app : String) : Bool × (UInt32 → Option Bytes) :=
  (d.isInstalled app, fun dataType => d.mailbox.get? (app, dataType))

theorem goods_install {a : String} (hne : a ≠ app) (d : Device) :
    (d.install a).goods app = d.goods app := by
  simp [goods, isInstalled, install, hne.symm]

theorem goods_uninstall {a : String} (hne : a ≠ app) (d : Device) :
    goods { d.forget a with installed := d.installed.filter (· ≠ a) } app = d.goods app := by
  refine Prod.ext ?_ (funext fun dataType => ?_)
  · simp [goods, isInstalled, hne.symm]
  · show (d.mailbox.filter fun k _ => k.1 ≠ a).get? (app, dataType) = _
    rw [Table.get?_filter]
    cases h : d.mailbox.get? (app, dataType) <;> simp [goods, h, hne.symm]

theorem goods_store {a : String} (hne : a ≠ app) (dataType : UInt32) (data : Bytes) (d : Device) :
    goods { d with mailbox := d.mailbox.set (a, dataType) data } app = d.goods app := by
  have hkey (t : UInt32) : (a, dataType) ≠ (app, t) := fun h => hne (congrArg Prod.fst h)
  simp [goods, isInstalled, Table.get?_set_of_ne _ (hkey _)]

theorem goods_take {a : String} (hne : a ≠ app) (dataType : UInt32) (d : Device) :
    goods { d with mailbox := d.mailbox.erase (a, dataType) } app = d.goods app := by
  have hkey (t : UInt32) : (a, dataType) ≠ (app, t) := fun h => hne (congrArg Prod.fst h)
  simp [goods, isInstalled, Table.get?_erase_of_ne _ (hkey _)]

/-- An answer leaves the goods of other apps alone. -/
theorem keeps_goods (hne : q.app ≠ app) (g : Bool × (UInt32 → Option Bytes)) :
    Keeps (fun d => d.goods app = g) (answer q) := by
  let I (d : Device) : Prop := d.goods app = g
  have hedit {f : Device → Device} (hf : ∀ d, (f d).goods app = d.goods app)
      (reply : Applet.Reply) : Keeps I (do
        modify f
        return reply : Answering Applet.Reply) :=
    (keeps_modify fun d hd => (hf d).trans hd).bind fun _ => keeps_pure reply
  have hsession {a : String} {handle : UInt32} {x : Answering Applet.Reply} (hx : Keeps I x) :
      Keeps I (do
        let _ ← requireOpen a
        requireHandle a handle
        x) :=
    (keeps_requireOpen a).bind fun _ => (keeps_requireHandle a handle).bind fun _ => hx
  cases q with
  | openSession a shared =>
    refine keeps_get fun d hd => ?_
    refine keeps_ite keeps_throw_bind ?_ d hd
    exact hedit (fun _ => by rfl) _
  | closeSession a | unsubscribe a => exact hedit (fun _ => by rfl) _
  | install a source => exact keeps_ite keeps_throw_bind (hedit (goods_install hne) _)
  | uninstall a =>
    refine keeps_get fun d hd => ?_
    refine keeps_ite keeps_throw_bind ?_ d hd
    exact hedit (goods_uninstall hne) _
  | startProvisioning a =>
    refine (keeps_requireOpen a).bind fun _ => keeps_get fun d hd => ?_
    refine Keeps.bind (keeps_modify ?_) (fun _ => keeps_pure _) d hd
    exact fun _ hd => hd
  | endProvisioning a handle capacity =>
    refine keeps_ite keeps_throw_bind ?_
    refine (keeps_requireHandle a handle).bind fun _ => keeps_get fun d hd => ?_
    cases d.provisioning.get? handle with
    | none => exact hd
    | some p =>
      refine keeps_ite (keeps_pure _) ?_ d hd
      exact hedit (fun _ => by rfl) _
  | sendData a handle dataType data => exact hsession (hedit (goods_store hne dataType data) _)
  | receiveData a handle dataType capacity =>
    refine hsession (keeps_get fun d hd => ?_)
    cases d.mailbox.get? (a, dataType) with
    | none => exact hd
    | some data =>
      refine keeps_ite (keeps_pure _) ?_ d hd
      exact hedit (goods_take hne dataType) _
  | sendAndReceive | otpsStatus => exact hsession (keeps_pure _)
  | capabilities a capType capacity =>
    refine (keeps_requireOpen a).bind fun _ => ?_
    split
    · exact keeps_pure _
    · exact keeps_pure _
    · exact keeps_throw _
  | getOtp a handle token vendorData otpCapacity tokenCapacity =>
    refine (keeps_requireOpen a).bind fun _ => keeps_ite keeps_throw_bind ?_
    refine (keeps_requireHandle a handle).bind fun _ => ?_
    have hotp : Keeps I nextOtp :=
      Keeps.bind (keeps_modify fun _ hd => hd) fun _ => keeps_get fun _ hd => hd
    refine hotp.bind fun password => ?_
    split <;> exact keeps_pure _
  | subscribe a =>
    exact (keeps_requireOpen a).bind fun _ => keeps_ite keeps_throw_bind (hedit (fun _ => by rfl) _)

/-- A request leaves the goods of other apps alone. -/
theorem goods_handle (d : Device) (hne : q.app ≠ app) : (d.handle q).2.goods app = d.goods app :=
  handle_cases (P := fun _ d' => d'.goods app = d.goods app) q (fun _ _ => rfl) fun _ =>
    keeps_goods hne (d.goods app) { d with received := d.received ++ [q] } rfl

/-! ## What the device holds for an app -/

/-- The device holds the same session, subscription, handles and data for the app. -/
structure Alike (app : String) (d d' : Device) : Prop where
  session : d'.sessions.get? app = d.sessions.get? app
  subscribed : d'.isSubscribed app = d.isSubscribed app
  handles : ∀ handle token, d'.provisioning.get? handle = some (app, token) ↔
    d.provisioning.get? handle = some (app, token)
  mailbox : ∀ dataType, d'.mailbox.get? (app, dataType) = d.mailbox.get? (app, dataType)

theorem Alike.refl (app : String) (d : Device) : Alike app d d :=
  ⟨rfl, rfl, fun _ _ => Iff.rfl, fun _ => rfl⟩

theorem Alike.trans (h : Alike app d d') (h' : Alike app d' d'') : Alike app d d'' :=
  ⟨h'.session.trans h.session, h'.subscribed.trans h.subscribed,
    fun handle token => (h'.handles handle token).trans (h.handles handle token),
    fun dataType => (h'.mailbox dataType).trans (h.mailbox dataType)⟩

/-- A request leaves what the device holds for other apps alone. -/
theorem alike_handle (h : d.Ahead) (hne : q.app ≠ app) : Alike app d (d.handle q).2 := by
  have hseat := seat_handle d q app
  rw [if_neg hne] at hseat
  have hgoods := congrArg Prod.snd (goods_handle d hne)
  exact ⟨congrArg Seat.session hseat, congrArg Seat.subscribed hseat,
    get?_handle_of_ne h hne.symm, congrFun hgoods⟩

theorem isInstalled_handle (d : Device) (hne : q.app ≠ app) :
    (d.handle q).2.isInstalled app = d.isInstalled app := congrArg Prod.fst (goods_handle d hne)

end Device

/-! ## The operator -/

/-- The operator installs the app in one of these turns. -/
def Control.Installs (app : String) (turns : List (List Control)) : Prop :=
  ∃ controls ∈ turns, .install app ∈ controls

namespace Attended

variable {a b : Attended} {app : String}

theorem isInstalled_foldl (cs : List Control) (d : Device) (app : String) :
    (cs.foldl (fun d c => c.apply d) d).isInstalled app = true ↔
      d.isInstalled app = true ∨ .install app ∈ cs := by
  induction cs generalizing d with
  | nil => simp
  | cons c cs ih =>
    rw [List.foldl_cons, ih, List.mem_cons, ← or_assoc]
    refine or_congr_left ?_
    cases c with
    | install other =>
      by_cases hne : app = other
      · subst hne
        simp [Control.apply, Device.install, Device.isInstalled]
      · simp [Control.apply, Device.install, Device.isInstalled, hne]
    | _ => simp [Control.apply, Device.inject, Device.isInstalled]

theorem mailbox_foldl (cs : List Control) (d : Device) :
    (cs.foldl (fun d c => c.apply d) d).mailbox = d.mailbox := by
  induction cs generalizing d with
  | nil => rfl
  | cons c cs ih =>
    refine (ih _).trans ?_
    cases c <;> rfl

/-- Whatever the operator does, the device holds the same for the app. -/
theorem Disturbs.alike (h : Disturbs a b) (app : String) :
    Device.Alike app a.device b.device := by
  have hsame := h.sameSessions
  have hmailbox : b.device.mailbox = a.device.mailbox := by
    induction h with
    | refl => rfl
    | @step a _ rest ih =>
      exact (ih rest.sameSessions).trans (mailbox_foldl (a.agenda.headD []) a.device)
  refine ⟨by rw [hsame.sessions], ?_, fun _ _ => by rw [hsame.provisioning],
    fun _ => by rw [hmailbox]⟩
  rw [Device.isSubscribed, hsame.subscribed]
  rfl

/-- The operator takes some turns, and an app is installed afterwards that was installed before or
that one of them installs. -/
theorem Disturbs.isInstalled_iff (h : Disturbs a b) (app : String) :
    ∃ turns, a.agenda = turns ++ b.agenda ∧ (b.device.isInstalled app = true ↔
      a.device.isInstalled app = true ∨ Control.Installs app turns) := by
  induction h with
  | refl a => exact ⟨[], rfl, by simp [Control.Installs]⟩
  | @step a b _ ih =>
    obtain ⟨turns, hagenda, hiff⟩ := ih
    have hattend : a.attend.device.isInstalled app = true ↔
        a.device.isInstalled app = true ∨ .install app ∈ a.agenda.headD [] :=
      isInstalled_foldl _ _ app
    have hrest : a.agenda.tail = turns ++ b.agenda := hagenda
    cases ha : a.agenda with
    | nil =>
      rw [ha] at hattend hrest
      refine ⟨turns, hrest, hiff.trans ?_⟩
      rw [hattend]
      simp
    | cons controls agenda =>
      rw [ha] at hattend hrest
      refine ⟨controls :: turns, congrArg (controls :: ·) hrest, hiff.trans ?_⟩
      rw [hattend, or_assoc]
      exact or_congr_right (by simp [Control.Installs])

end Attended

/-! ## Exchanges -/

namespace Link

variable {l l' l'' : Link Attended} {app : String} {q : Applet.Request}
  {r : Except LinkError Applet.Reply}

/-- What the device holds for the app is untouched, and the app is installed if it was so or the
operator has installed it meanwhile. -/
structure Untouched (app : String) (l l' : Link Attended) : Prop where
  device : l.transport.device.Alike app l'.transport.device
  installed : ∃ turns, l.transport.agenda = turns ++ l'.transport.agenda ∧
    (l'.transport.device.isInstalled app = true ↔
      l.transport.device.isInstalled app = true ∨ Control.Installs app turns)

theorem Untouched.refl (app : String) (l : Link Attended) : Untouched app l l :=
  ⟨.refl app _, [], rfl, by simp [Control.Installs]⟩

theorem Untouched.trans (h : Untouched app l l') (h' : Untouched app l' l'') :
    Untouched app l l'' := by
  obtain ⟨turns, hagenda, hiff⟩ := h.installed
  obtain ⟨turns', hagenda', hiff'⟩ := h'.installed
  refine ⟨h.device.trans h'.device, turns ++ turns', ?_, ?_⟩
  · rw [hagenda, hagenda', List.append_assoc]
  · rw [hiff', hiff, or_assoc]
    exact or_congr_right (by simp only [Control.Installs, List.mem_append, or_and_right, exists_or])

/-- What is done on the way from one link to the other does not concern the app: it is untouched on
the same connection, or this connection has been lost. -/
inductive Confined (app : String) (l l' : Link Attended) : Prop
  | kept (hc : l'.connected = l.connected) (he : l'.epoch = l.epoch) (h : Untouched app l l')
  | lost (hle : l.epoch ≤ l'.epoch)
    (h : l.epoch < l'.epoch ∨ (l.connected = true ∧ l'.connected = false))

theorem Confined.trans (h : Confined app l l') (h' : Confined app l' l'') :
    Confined app l l'' := by
  cases h with
  | kept hc he hl =>
    cases h' with
    | kept hc' he' hl' => exact .kept (hc'.trans hc) (he'.trans he) (hl.trans hl')
    | lost hle hlost => exact .lost (he ▸ hle) (he ▸ hc ▸ hlost)
  | lost hle hlost =>
    cases h' with
    | kept hc' he' _ => exact .lost (he' ▸ hle) (he' ▸ hc' ▸ hlost)
    | lost hle' hlost' =>
      refine .lost (Nat.le_trans hle hle') ?_
      rcases hlost with hlt | ⟨hup, hdown⟩
      · exact .inl (Nat.lt_of_lt_of_le hlt hle')
      · rcases hlost' with hlt' | ⟨hup', _⟩
        · exact .inl (Nat.lt_of_le_of_lt hle hlt')
        · cases hdown.symm.trans hup'

/-- A connection that is the same afterwards has not been lost. -/
theorem Confined.untouched (h : Confined app l l') (hc : l'.connected = l.connected)
    (he : l'.epoch = l.epoch) : Untouched app l l' := by
  cases h with
  | kept _ _ h => exact h
  | lost _ hlost =>
    rcases hlost with hlt | ⟨hup, hdown⟩
    · omega
    · cases hdown.symm.trans (hc.trans hup)

/-- An exchange about another app does not concern the app. -/
theorem confined_exchange (hq : Quiet l) (h : l.transport.device.Ahead) (hne : q.app ≠ app) :
    Confined app l ((exchange q).run l).2 := by
  refine (ends_exchange hq q).mono (R := fun _ l' => Confined app l l') fun r l' hx => ?_
  cases hx with
  | down _ => exact .kept rfl rfl (.refl app l)
  | unsent _ _ => exact .kept rfl rfl (.refl app l)
  | @served b _ hc hb _ hc' hepoch hagenda hdevice =>
    refine .kept (hc'.trans hc.symm) hepoch ⟨?_, ?_⟩
    · have hahead := h.of_sameSessions hb.sameSessions
      have halike := (hb.alike app).trans (Device.alike_handle hahead hne)
      rw [hdevice]
      exact ⟨halike.session, halike.subscribed, halike.handles, halike.mailbox⟩
    · obtain ⟨turns, hturns, hiff⟩ := hb.isInstalled_iff app
      refine ⟨turns, by rw [hagenda]; exact hturns, ?_⟩
      rw [hdevice]
      show (b.device.handle q).2.isInstalled app = true ↔ _
      rw [Device.isInstalled_handle b.device hne]
      exact hiff
  | lost hc _ _ _ _ anew =>
    have hepoch := anew.epoch
    split at hepoch
    · exact .lost (by omega) (.inl (by omega))
    · rename_i hdown
      exact .lost (by omega) (.inr ⟨hc, Bool.eq_false_iff.mpr hdown⟩)

end Link

/-! ## Operations -/

namespace Service

open Link (Converses Confined)

variable {o : Operation} {s : Service Attended} {app : String}

/-- What is asked for other apps does not concern the app. -/
theorem confined_of_converses {l l' : Link Attended} {talk : Link.Talk} (hs : l.Sane)
    (h : l.transport.device.Ahead) (hc : Converses l talk l')
    (htalk : ∀ e ∈ talk, e.1.app ≠ app ∧ e.1.starts = false) : Confined app l l' := by
  induction hc with
  | nil l => exact .kept rfl rfl (.refl app l)
  | @cons l l' talk q rest ih =>
    have hfirst := htalk _ List.mem_cons_self
    obtain ⟨hsane, hahead, _⟩ := ahead_of_converses hs h (.single l q)
      (List.forall_mem_singleton.mpr hfirst.2)
    exact (Link.confined_exchange hs.quiet h hfirst.1).trans
      (ih hsane hahead fun e he => htalk e (List.mem_cons_of_mem _ he))

/-- An operation on another app does not concern the app on its way over the link. -/
theorem confined_perform (hs : Healthy s) (h : s.link.transport.device.Ahead) (hi : o ≠ .init)
    (hd : o ≠ .deinit) (ht : target s o ≠ some app) :
    Confined app s.link (move (.perform o) s).link := by
  obtain ⟨l, talk, hc, htalk, hl⟩ := ends_converses hs.sound hi hd
  have hother : ∀ e ∈ talk, e.1.app ≠ app ∧ e.1.starts = false := fun e he =>
    ⟨fun happ => ht (happ ▸ (htalk e he).1), (htalk e he).2⟩
  have hfirst := confined_of_converses hs.sane h hc hother
  rcases hl with hl | ⟨other, rfl, hl⟩
  · rw [← hl] at hfirst
    exact hfirst
  · obtain ⟨hsane, hahead, _⟩ := ahead_of_converses hs.sane h hc fun e he => (hother e he).2
    have hne : other ≠ app := fun happ => ht (congrArg some happ)
    have hlast := Link.confined_exchange (q := .startProvisioning other) hsane.quiet hahead hne
    rw [← hl] at hlast
    exact hfirst.trans hlast

/-- An operation on another app leaves the row of the app and its tokens alone. -/
theorem registry_perform (hs : s.registry.Sound) (h : s.registry.Ordered) (hi : o ≠ .init)
    (hd : o ≠ .deinit) (ht : target s o ≠ some app) :
    Ends (perform o) s fun _ s' => s'.registry.row? app = s.registry.row? app ∧
      ∀ id owner, s'.registry.resolve id = some ⟨app, owner⟩ ↔
        s.registry.resolve id = some ⟨app, owner⟩ := by
  refine (ends_perform hs hi hd).mono fun r s' hp => ?_
  cases hp with
  | refused => exact ⟨rfl, fun _ _ => Iff.rfl⟩
  | idle => exact ⟨rfl, fun _ _ => Iff.rfl⟩
  | @turn other r t htarget hturned =>
    have hne : other ≠ app := by
      rintro rfl
      exact ht htarget
    exact ⟨Registry.get?_settle_of_ne s.registry ⟨t.row, t.tokens⟩ hne,
      h.resolve_settle_of_ne (hturned.issued (hs.app_rowOrFresh other)) hne⟩

/-- In every state that is reached before a counter has started over: an operation on another app,
whatever it is given and however it ends, leaves the row of the app as it is and its tokens, and on
the same connection what the device holds for the app. -/
theorem apps_isolated (h : Unwrapped s) (hi : o ≠ .init) (hd : o ≠ .deinit)
    (ht : target s o ≠ some app) :
    let s' := move (.perform o) s
    s'.registry.row? app = s.registry.row? app ∧
      (∀ id owner, s'.registry.resolve id = some ⟨app, owner⟩ ↔
        s.registry.resolve id = some ⟨app, owner⟩) ∧
      (s'.link.connected = s.link.connected → s'.link.epoch = s.link.epoch →
        s.link.Untouched app s'.link) := by
  intro s'
  have hs := h.reachable.healthy
  obtain ⟨hrow, htokens⟩ := registry_perform hs.sound h.ahead.tokens hi hd ht
  exact ⟨hrow, htokens, (confined_perform hs h.ahead.handles hi hd ht).untouched⟩

/-- The instance of one app is stopped and its session closed, while another app has an instance, a
subscription, a provisioning and data. -/
theorem stopInstance_isolated :
    ∃ (s : Service Attended) (o : Operation), s = run [.perform .init,
        .perform (.startInstance ⟨.self, 0⟩ "b" (some (.own "h"))),
        .perform (.startProvisioning "b"), .perform (.sendData "b" none 7 [1, 2]),
        .perform (.startInstance ⟨.self, 0⟩ "a" none)] (start ["a", "b"] Guid.nil {} []) ∧
      o = .stopInstance ⟨.self, 0⟩ 2 ∧ Unwrapped s ∧ target s o = some "a" ∧
      let s' := move (.perform o) s
      s.link.transport.device.isOpen "a" = true ∧ s'.link.transport.device.isOpen "a" = false ∧
      s'.link.connected = s.link.connected ∧ s'.link.epoch = s.link.epoch ∧
      s'.registry.row? "b" = s.registry.row? "b" ∧
      s'.registry.resolve 1 = some ⟨"b", .self⟩ ∧ s.link.Untouched "b" s'.link := by
  refine ⟨_, _, rfl, rfl, ?_⟩
  have h₁ := (Unwrapped.start ["a", "b"] Guid.nil {} []).move (.perform .init)
    ⟨by decide +kernel, by decide +kernel⟩
  have h₂ := h₁.move (.perform (.startInstance ⟨.self, 0⟩ "b" (some (.own "h"))))
    ⟨by decide +kernel, by decide +kernel⟩
  have h₃ := h₂.move (.perform (.startProvisioning "b")) ⟨by decide +kernel, by decide +kernel⟩
  have h₄ := h₃.move (.perform (.sendData "b" none 7 [1, 2]))
    ⟨by decide +kernel, by decide +kernel⟩
  have h₅ := h₄.move (.perform (.startInstance ⟨.self, 0⟩ "a" none))
    ⟨by decide +kernel, by decide +kernel⟩
  generalize hs : run [.perform .init, .perform (.startInstance ⟨.self, 0⟩ "b" (some (.own "h"))),
    .perform (.startProvisioning "b"), .perform (.sendData "b" none 7 [1, 2]),
    .perform (.startInstance ⟨.self, 0⟩ "a" none)] (start ["a", "b"] Guid.nil {} []) = s
  have hunwrapped : Unwrapped s := by
    rw [← hs]
    exact h₅
  have hbefore : target s (.stopInstance ⟨.self, 0⟩ 2) = some "a" ∧
      s.link.transport.device.isOpen "a" = true ∧ s.registry.resolve 1 = some ⟨"b", .self⟩ := by
    rw [← hs]
    decide +kernel
  have hafter : let s' := move (.perform (.stopInstance ⟨.self, 0⟩ 2)) s
      s'.link.transport.device.isOpen "a" = false ∧ s'.link.connected = s.link.connected ∧
        s'.link.epoch = s.link.epoch := by
    rw [← hs]
    decide +kernel
  obtain ⟨htarget, hopen, htoken⟩ := hbefore
  obtain ⟨hclosed, hconnected, hepoch⟩ := hafter
  have hother : target s (.stopInstance ⟨.self, 0⟩ 2) ≠ some "b" :=
    fun h => absurd (htarget.symm.trans h) (by decide)
  obtain ⟨hrow, htokens, hlink⟩ :=
    apps_isolated (o := .stopInstance ⟨.self, 0⟩ 2) hunwrapped nofun nofun hother
  exact ⟨hunwrapped, htarget, hopen, hclosed, hconnected, hepoch, hrow,
    (htokens 1 .self).mpr htoken, hlink hconnected hepoch⟩

end Service

end AppletGateway
