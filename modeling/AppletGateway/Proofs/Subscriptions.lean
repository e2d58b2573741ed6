import AppletGateway.Proofs.Sessions

/-!
# Rows and subscriptions agree, except after a refusal

A row with a handler stands for a subscription: while its session is open on the device, the device
sends the events of the app. Every operation sees to that but one kind. A session that is opened
again is recorded before its events are subscribed to again, and if the device takes the first
request and refuses the second, the row says that all is well, and no later operation has a reason
to subscribe.

Such an operation shows from outside: the last request that has reached the device is to subscribe,
the device has the session, and it does not have the subscription (`Service.Silences`).

Results:
* `Service.subscription_agreement`: rows and the device agree on the subscriptions after every run
  without such an operation, and after such an operation they do not.
-/

namespace AppletGateway

open Packed (pack)

/-! ## What can be said of a single exchange -/

/-- The request to subscribe fits into a frame if the one to open the session does. -/
theorem encode_subscribe_of_openSession {app : String} (shared : Bool)
    (h : Frame.encode (pack (Applet.Request.subscribe app)) = none) :
    Frame.encode (pack (Applet.Request.openSession app shared)) = none := by
  refine Frame.encode_eq_none_of_le h nofun ?_
  show (Packed.packTag 12 ++ pack app).length ≤ (Packed.packTag 0 ++ pack app ++ pack shared).length
  have htag : (Packed.packTag 12).length = (Packed.packTag 0).length := rfl
  simp only [List.length_append, htag]
  omega

namespace Standing

variable {app : String} {q : Applet.Request} {r : Except LinkError Applet.Reply} {a a' : Standing}

/-- A request to subscribe never takes a subscription away while the session stays. -/
theorem Exchanged.keeps_subscribed (h : Exchanged app (.subscribe app) a r a')
    (hs : a.seat.session ≠ none → a.seat.subscribed = true) (ho : a'.seat.session ≠ none) :
    a'.seat.subscribed = true := by
  cases h with
  | unsent _ _ => exact hs ho
  | lost _ hlost _ =>
    rw [hlost.seat] at ho
    exact absurd rfl ho
  | served _ hseat =>
    rw [if_pos (by rfl)] at hseat
    cases hseat with
    | same _ => exact hs ho
    | closed hq => rcases hq with hq | hq <;> cases hq
    | subscribed _ => rfl

/-- No request that has reached the device is forgotten. -/
theorem Exchanged.length_received (h : Exchanged app q a r a') :
    a.received.length ≤ a'.received.length := by
  cases h with
  | unsent _ _ => exact Nat.le_refl _
  | lost _ _ hr =>
    rcases hr with hr | hr
    · exact Nat.le_of_eq (congrArg _ hr.symm)
    · rw [hr, List.length_append]
      exact Nat.le_add_right _ _
  | served _ _ =>
    show _ ≤ (a.received ++ [q]).length
    rw [List.length_append]
    exact Nat.le_add_right _ _

end Standing

namespace Service

variable {app : String} {o : Operation} {s : Service Attended} {t t' : Turn Attended}
  {row : Row} {a a' : Standing}

/-- A row with a handler stands for a subscription of its session, if the device has the session. -/
def Heard (row : Row) (a : Standing) : Prop :=
  row.loaded = true → row.callback.isSome = true → a.seat.session ≠ none → a.seat.subscribed = true

theorem Heard.lost (hlost : a.Lost a') : Heard row a' := by
  intro _ _ ho
  rw [hlost.seat] at ho
  exact absurd rfl ho

theorem lasting_heard : Lasting Heard :=
  ⟨fun _ _ hl => absurd hl nofun, fun _ hlost => .lost hlost, fun _ h => h⟩

theorem Heard.edit (h : Heard row a) {row' : Row} (he : row.SaysLess row') : Heard row' a := by
  intro hl hb
  have hl' : row.loaded = true := by
    rcases he.session with hn | ⟨heq, _⟩
    · exact absurd (hn.symm.trans hl) nofun
    · exact heq.symm.trans hl
  rcases he.callback with heq | hn
  · exact h hl' (heq ▸ hb)
  · rw [hn] at hb
    cases hb

/-- A request that does not bear on the row keeps its subscription. -/
theorem Heard.exchanged (h : Heard row a) {q : Applet.Request}
    {r : Except LinkError Applet.Reply} (hx : a.Exchanged app q r a') (hi : row.Indifferent q) :
    Heard row a' := by
  intro hl hb
  rcases hi with hi | ⟨hn, _⟩ | ⟨hn, _⟩
  · cases hx with
    | unsent _ _ => exact h hl hb
    | lost _ hlost _ => exact Heard.lost hlost hl hb
    | served _ hseat =>
      split at hseat
      · cases hseat with
        | same _ => exact h hl hb
        | opened _ => cases hi
        | closed hq => rcases hq with rfl | rfl <;> cases hi
        | subscribed _ => cases hi
        | unsubscribed => cases hi
      · rw [hseat]
        exact h hl hb
  · exact absurd (hn.symm.trans hl) nofun
  · rw [hn] at hb
    cases hb

/-! ## The last request -/

/-- If more than `n` requests have reached the device and the last one was to subscribe to the
events of the app, the subscription is there as long as the session is. -/
def Followed (app : String) (n : Nat) (a : Standing) : Prop :=
  n < a.received.length → a.received.getLast? = some (.subscribe app) →
    a.seat.session ≠ none → a.seat.subscribed = true

theorem followed_of_received (h : a.received.length ≤ n) : Followed app n a :=
  fun hn => absurd hn (Nat.not_lt.mpr h)

theorem Followed.exchanged {n : Nat} (h : Followed app n a) {q : Applet.Request}
    {r : Except LinkError Applet.Reply} (hx : a.Exchanged app q r a') (hq : q ≠ .subscribe app) :
    Followed app n a' := by
  cases hx with
  | unsent _ _ => exact h
  | lost _ hlost _ =>
    intro _ _ ho
    rw [hlost.seat] at ho
    exact absurd rfl ho
  | served _ _ =>
    intro _ hlast
    rw [List.getLast?_concat] at hlast
    exact absurd (Option.some.inj hlast) hq

theorem followed_of_live {n : Nat} (h : a.seat = .live) : Followed app n a := by
  intro _ _ _
  rw [h]
  rfl

/-! ## Turns -/

/-- The row of a turn is subscribed for, and so is the last request since `n`. -/
structure Subscribed (app : String) (n : Nat) (t : Turn Attended) : Prop where
  heard : Heard t.row (t.link.standing app)
  followed : Followed app n (t.link.standing app)
  since : n ≤ (t.link.standing app).received.length

theorem sane_opened (hs : t.link.Sane) : t.opened.link.Sane := hs.exchange t.opening

theorem standing_opened (app : String) (hs : t.link.Sane) :
    (t.link.standing app).Exchanged app t.opening (t.answer t.opening)
      (t.opened.link.standing app) :=
  standing_after _ hs t.opening

/-- What was answered to a subscription on the way, all is well if it was done. -/
theorem subscribed_of_done {n : Nat} (hs : t.link.Sane) (row : Row)
    (hd : t.answer (.subscribe app) = .ok .done)
    (hn : n ≤ (t.link.standing app).received.length) :
    Subscribed app n { t.after (.subscribe app) with row := row } := by
  have hx := standing_after app hs (.subscribe app)
  have hlength := hx.length_received
  rw [hd] at hx
  have hlive := hx.subscribed.2.2
  refine ⟨fun _ _ _ => ?_, followed_of_live hlive, Nat.le_trans hn hlength⟩
  show ((t.after (.subscribe app)).link.standing app).seat.subscribed = true
  rw [hlive]
  rfl

/-- A course keeps the subscriptions. -/
theorem Course.subscribed {n : Nat} (h : Course o app t t') (ht : t.row.app = app)
    (hs : t.link.Sane) (hsub : Subscribed app n t) : Subscribed app n t' := by
  induction h with
  | start => exact hsub
  | edit _ he _ ih => exact ⟨ih.heard.edit he, ih.followed, ih.since⟩
  | @ask t' h q hq hi ih =>
    have hx := standing_after app (h.sane ht hs) q
    refine ⟨ih.heard.exchanged hx hi, ih.followed.exchanged hx ?_,
      Nat.le_trans ih.since hx.length_received⟩
    have happ := h.row_app.trans ht
    rcases hi with hi | ⟨_, hi⟩ | ⟨_, rfl⟩
    · rintro rfl
      cases hi
    · rwa [happ] at hi
    · exact nofun
  | @opened t' h _ hb _ ih =>
    have hx := standing_opened app (h.sane ht hs)
    refine ⟨fun _ hb' => ?_, ih.followed.exchanged hx nofun,
      Nat.le_trans ih.since hx.length_received⟩
    have hb' : t'.row.callback.isSome = true := hb'
    rw [hb] at hb'
    cases hb'
  | @reopened t' h _ _ _ hd ih =>
    have hx := standing_opened app (h.sane ht hs)
    exact subscribed_of_done (sane_opened (h.sane ht hs)) _ hd
      (Nat.le_trans ih.since hx.length_received)
  | bound h _ _ hd _ ih => exact subscribed_of_done (h.sane ht hs) _ hd ih.since

/-- The last request since `n` was to subscribe to the events of an app with a handler, and the
device has the session without the subscription. -/
structure Silent (app : String) (n : Nat) (row : Row) (a : Standing) : Prop where
  bound : row.callback.isSome = true
  more : n < a.received.length
  last : a.received.getLast? = some (.subscribe app)
  session : a.seat.session ≠ none
  unsubscribed : a.seat.subscribed = false

theorem not_silent {n : Nat} (hf : Followed app n a) : ¬ Silent app n row a := by
  intro hs
  exact absurd (hs.unsubscribed.symm.trans (hf hs.more hs.last hs.session)) nofun

theorem heard_iff_not_silent {n : Nat} (hl : row.loaded = true) (hb : row.callback.isSome = true)
    (ho : a.seat.session ≠ none) (hmore : n < a.received.length)
    (hlast : a.received.getLast? = some (.subscribe app)) :
    Heard row a ↔ ¬ Silent app n row a := by
  constructor
  · intro h hs
    exact absurd (hs.unsubscribed.symm.trans (h hl hb ho)) nofun
  · intro h _ _ _
    cases hu : a.seat.subscribed with
    | true => rfl
    | false => exact absurd ⟨hb, hmore, hlast, ho, hu⟩ h

/-- A cut loses the subscription of its row exactly if it leaves the app silent. -/
theorem Cut.heard_iff {n : Nat} (h : Cut o app t t') (ht : t.row.app = app) (hs : t.link.Sane)
    (hsub : Subscribed app n t) :
    Heard t'.row (t'.link.standing app) ↔ ¬ Silent app n t'.row (t'.link.standing app) := by
  cases h with
  | @binding t' h _ _ hl hno =>
    have h₁ := h.subscribed ht hs hsub
    have hx := standing_after app (h.sane ht hs) (.subscribe app)
    have hkept (hb : t'.row.callback.isSome = true) := hx.keeps_subscribed (h₁.heard hl hb)
    refine iff_of_true (fun _ hb => hkept hb) fun hsilent => ?_
    exact absurd (hsilent.unsubscribed.symm.trans (hkept hsilent.bound hsilent.session)) nofun
  | @reopening t' h hl hb hd hno =>
    have hsane := h.sane ht hs
    have hx₁ := standing_opened app hsane
    have hsince := Nat.le_trans (h.subscribed ht hs hsub).since hx₁.length_received
    rw [hd] at hx₁
    have hopening : t'.opening = .openSession app t'.row.shared :=
      congrArg (Applet.Request.openSession · t'.row.shared) (h.row_app.trans ht)
    obtain ⟨hc, hopened⟩ := hx₁.opened hopening
    have hx₂ := standing_after app (sane_opened hsane) (.subscribe app)
    show Heard t'.opened.row _ ↔ ¬ Silent app n t'.opened.row _
    generalize t'.opened.answer (.subscribe app) = r at hx₂ hno
    generalize ((t'.opened.after (.subscribe app)).link.standing app) = a₂ at hx₂
    cases hx₂ with
    | unsent _ hunsent =>
      -- The link is connected, and the longer request to open the session has been sent.
      rcases hunsent with hdown | hunfit
      · rw [hopened] at hdown
        exact absurd (hc.symm.trans hdown) nofun
      · have hfails := Link.ends_exchange_of_unfit (l := t'.link)
          (encode_subscribe_of_openSession t'.row.shared hunfit)
        rw [← hopening] at hfails
        obtain ⟨e, he⟩ := hfails
        exact absurd (hd.symm.trans he) nofun
    | lost _ hlost _ =>
      refine iff_of_true (Heard.lost hlost) fun hsilent => hsilent.session ?_
      rw [hlost.seat]
      rfl
    | @served reply seat _ hseat =>
      rw [if_pos (by rfl), hopened] at hseat
      cases hseat with
      | same _ =>
        refine heard_iff_not_silent rfl hb nofun ?_ List.getLast?_concat
        show n < (_ ++ [_]).length
        rw [List.length_append]
        exact Nat.lt_succ_of_le hsince
      | closed hq => rcases hq with hq | hq <;> cases hq
      | subscribed _ => exact absurd rfl hno

/-! ## Operations -/

/-- If the link is connected, the row is loaded under the epoch of this connection and a handler is
bound, then the events of the app are subscribed to on the device. -/
def SubscribedOn (app : String) (s : Service Attended) : Prop :=
  ∀ row, s.registry.row? app = some row → s.link.connected = true → row.loaded = true →
    row.openedOn = s.link.epoch → row.callback.isSome = true →
      s.link.transport.device.isSubscribed app = true

/-- An operation silences an app if the last request that reaches the device is to subscribe to its
events, a handler is bound, and the device has the session without the subscription. -/
def Silences (app : String) (s : Service Attended) (o : Operation) : Prop :=
  let s' := move (.perform o) s
  let d := s'.link.transport.device
  (s'.registry.callbackFor app).isSome = true ∧
    s.link.transport.device.received.length < d.received.length ∧
    d.received.getLast? = some (.subscribe app) ∧
    d.isOpen app = true ∧ d.isSubscribed app = false

instance (app : String) (s : Service Attended) (o : Operation) : Decidable (Silences app s o) :=
  inferInstanceAs (Decidable (_ ∧ _ ∧ _ ∧ _ ∧ _))

/-- With the agreement on the sessions, the subscription of a row is all that can be missing. -/
theorem subscribedOn_iff (hm : Holds Mirrors app s) : SubscribedOn app s ↔ Holds Heard app s := by
  have hm : Mirrors (s.registry.rowOrFresh app) (s.link.standing app) := hm
  show _ ↔ Heard (s.registry.rowOrFresh app) (s.link.standing app)
  unfold Registry.rowOrFresh at hm ⊢
  unfold SubscribedOn
  cases hrow : s.registry.row? app with
  | none => exact iff_of_true nofun fun hl => absurd hl nofun
  | some row =>
    rw [hrow] at hm
    constructor
    · intro h hl hb ho
      have hsession := hm.session hl
      split at hsession
      · rename_i hcurrent
        exact h row rfl hcurrent.1 hl hcurrent.2 hb
      · exact absurd hsession ho
    · rintro h _ ⟨⟩ hc hl ho hb
      refine h hl hb ?_
      rw [hm.session hl, if_pos ⟨hc, ho⟩]
      exact nofun

theorem silences_iff (o : Operation) : Silences app s o ↔
    Silent app s.link.transport.device.received.length
      ((move (.perform o) s).registry.rowOrFresh app)
      ((move (.perform o) s).link.standing app) := by
  unfold Silences
  dsimp only
  rw [← Registry.callback_rowOrFresh]
  constructor
  · rintro ⟨hb, hmore, hlast, hopen, hun⟩
    exact ⟨hb, hmore, hlast, Option.isSome_iff_ne_none.mp hopen, hun⟩
  · rintro ⟨hb, hmore, hlast, hopen, hun⟩
    exact ⟨hb, hmore, hlast, Option.isSome_iff_ne_none.mpr hopen, hun⟩

/-- Requests about another app are not the one to subscribe. -/
theorem Followed.conversed {other : String} {l l' : Link Attended} {n : Nat}
    (hc : Conversed o other l l') (hs : l.Sane) (hne : other ≠ app)
    (h : Followed app n (l.standing app)) : Followed app n (l'.standing app) := by
  obtain ⟨talk, hc, hasks⟩ := hc
  refine (hc.keeps (P := fun l => l.Sane ∧ Followed app n (l.standing app)) (fun l e he hl => ?_)
    ⟨hs, h⟩).2
  refine ⟨hl.1.exchange e.1, hl.2.exchanged (Link.standing_exchange hl.1.quiet e.1 app) ?_⟩
  rintro heq
  have happ := (hasks e he).app
  rw [heq] at happ
  exact hne happ.symm

/-- An operation that is not one on the app does not silence it. -/
theorem not_silences_of_ne (hs : Healthy s) (ht : target s o ≠ some app) : ¬ Silences app s o := by
  rw [silences_iff]
  have hstart : Followed app s.link.transport.device.received.length (s.link.standing app) :=
    followed_of_received (Nat.le_refl _)
  by_cases hi : o = .init
  · subst hi
    have hinit : Ends init s fun _ s' =>
        (s.link.standing app).Drifted (s'.link.standing app) :=
      ends_init.mpr (Link.standing_connect hs.sane.quiet app)
    refine not_silent (followed_of_received ?_)
    rcases hinit with heq | ⟨_, hr⟩
    · exact Nat.le_of_eq (congrArg (fun a => a.received.length) heq)
    · exact Nat.le_of_eq (congrArg List.length hr)
  by_cases hd : o = .deinit
  · subst hd
    refine (ends_deinit hs.sane).mono (R := fun _ s' => ¬ Silent app _
      (s'.registry.rowOrFresh app) (s'.link.standing app)) fun r s' h' => ?_
    rcases h' with ⟨_, ⟨_, rfl⟩ | ⟨_, hreg, _, _⟩⟩
    · exact not_silent hstart
    · intro hsilent
      have hb := hsilent.bound
      rw [Registry.rowOrFresh, hreg] at hb
      cases hb
  refine (ends_goes hs.sound hi hd).mono (R := fun _ s' => ¬ Silent app _
    (s'.registry.rowOrFresh app) (s'.link.standing app)) fun r s' hg => ?_
  cases hg with
  | nothing => exact not_silent hstart
  | @turn other t _ ha hended =>
    have hne : other ≠ app := by
      rintro rfl
      exact ht ha.target
    have hc := hended.conversed (hs.sound.app_rowOrFresh other)
    exact not_silent (hstart.conversed hc hs.sane hne)

/-- Every operation keeps the subscription of the row of an app, unless it silences the app. -/
theorem heard_perform_iff (hs : Healthy s) (h : Holds Heard app s) (o : Operation) :
    Holds Heard app (move (.perform o) s) ↔ ¬ Silences app s o := by
  by_cases ht : target s o = some app
  · rw [silences_iff]
    let n := s.link.transport.device.received.length
    let J (row : Row) (a : Standing) : Prop := Heard row a ↔ ¬ Silent app n row a
    have hfresh (a : Standing) : J (.fresh app) a :=
      iff_of_true (lasting_heard.fresh app a) fun hsilent => absurd hsilent.bound nofun
    have hi : o ≠ .init := by
      rintro rfl
      cases ht
    have hd : o ≠ .deinit := by
      rintro rfl
      cases ht
    refine (ends_goes hs.sound hi hd).mono (R := fun _ s' => Holds J app s') fun r s' hg => ?_
    have hstart : Followed app n (s.link.standing app) := followed_of_received (Nat.le_refl _)
    cases hg with
    | nothing => exact iff_of_true h (not_silent hstart)
    | @turn other t _ ha hended =>
      obtain rfl : other = app := Option.some.inj (ha.target.symm.trans ht)
      have happ := hs.sound.app_rowOrFresh other
      have hsub : Subscribed other n (s.turn other) := ⟨h, hstart, Nat.le_refl _⟩
      have hcourse {t : Turn Attended} (hc : Course o other (s.turn other) t) :
          J t.row (t.link.standing other) := by
        have := hc.subscribed happ hs.sane hsub
        exact iff_of_true this.heard (not_silent this.followed)
      refine holds_settled hfresh ?_
      cases r with
      | ok a => exact hcourse hended
      | error e =>
        rcases hended with hc | hcut
        · exact hcourse hc
        · exact hcut.heard_iff happ hs.sane hsub
  · refine iff_of_true (lasting_heard.move hs h fun o' hm ht' => ?_) (not_silences_of_ne hs ht)
    cases hm
    exact absurd ht' ht

/-! ## Runs -/

/-- No operation of the run silences the app. -/
def Heeds (app : String) : List Move → Service Attended → Prop
  | [], _ => True
  | m :: ms, s => (∀ o, m = .perform o → ¬ Silences app s o) ∧ Heeds app ms (move m s)

/-- A run without an operation that silences the app keeps the subscription of its row. -/
theorem heard_run {ms : List Move} (hs : Healthy s) (h : Holds Heard app s)
    (hheeds : Heeds app ms s) : Holds Heard app (run ms s) := by
  induction ms generalizing s with
  | nil => exact h
  | cons m ms ih =>
    obtain ⟨hm, hms⟩ := hheeds
    refine ih (hs.move m) (lasting_heard.move hs h fun o ho _ => ?_) hms
    subst ho
    exact (heard_perform_iff hs h o).mpr (hm o rfl)

/-- After every run without an operation that silences an app, whatever the operator has done in
between and within the operations: if the link is connected, the row of the app is loaded under the
epoch of this connection and a handler is bound, then the events of the app are subscribed to on the
device. From there an operation loses this agreement exactly if it silences the app. -/
theorem subscription_agreement (apps : List String) (client : Guid) (options : ServiceOptions)
    (agenda : List (List Control)) (ms : List Move) (app : String) :
    let s := run ms (start apps client options agenda)
    (Heeds app ms (start apps client options agenda) → SubscribedOn app s) ∧
      ∀ o, SubscribedOn app s → (¬ SubscribedOn app (move (.perform o) s) ↔ Silences app s o) := by
  intro s
  have hstart := healthy_start apps client options agenda
  have hs : Healthy s := hstart.run ms
  have hm : Holds Mirrors app s := mirrors_run apps client options agenda ms app
  refine ⟨fun hheeds => ?_, fun o hsub => ?_⟩
  · exact (subscribedOn_iff hm).mpr (heard_run hstart (lasting_heard.fresh app _) hheeds)
  · rw [subscribedOn_iff (mirrors_move hs hm (.perform o)),
      heard_perform_iff hs ((subscribedOn_iff hm).mp hsub) o, Classical.not_not]

/-- The device takes the request to open the session again and refuses to subscribe to its events:
the handler stays bound to a session without a subscription. -/
theorem otpsStatus_silences :
    ∃ s, s = run [.perform .init, .perform (.registerEvents "a" (.own "h")), .control .garble,
        .perform (.otpsStatus "a" none 0)]
        (start ["a"] Guid.nil {} [[], [], [], [], [], [], [.refuse 224]]) ∧
      SubscribedOn "a" s ∧
      ¬ SubscribedOn "a" (move (.perform (.otpsStatus "a" none 0)) s) := by
  refine ⟨_, rfl, ?_⟩
  obtain ⟨hagree, hlost⟩ := subscription_agreement ["a"] Guid.nil {}
    [[], [], [], [], [], [], [.refuse 224]] [.perform .init,
      .perform (.registerEvents "a" (.own "h")), .control .garble,
      .perform (.otpsStatus "a" none 0)] "a"
  have hsub := hagree ⟨?_, ?_, nofun, ?_, trivial⟩
  · exact ⟨hsub, (hlost _ hsub).mpr (by decide +kernel)⟩
  all_goals
    rintro _ ⟨⟩
    decide +kernel

end Service

end AppletGateway
