import AppletGateway.Proofs.Courses
import AppletGateway.Proofs.Offers

/-!
# Steps that offer something or change nothing

A step on the row of an app is discreet if, whenever it has offered nothing to the channel, it has
changed nothing. On the way it may have changed the row already: a session of an earlier connection
is forgotten, and a session that is to be an exclusive one is marked so, before the request that
opens it. Such a change is followed by a request. That this offers something is clear for a row that
holds something: a session with the app was opened once, so the request for it fits into a frame.
For other apps it may not fit, but then the row is vacant still.

Results:
* `Service.Discreet.bind`, `Service.discreet_call`: requests are discreet, and so is what is made of
  discreet steps.
* `Service.opens_ensureLoaded`, `Service.opens_exclusive`: opening a session is discreet, and it
  succeeds only for an app that can be asked for.
* `Service.rejecting_call_bind`, `Service.rejecting_exclusive_bind`: what may follow is free once a
  request was answered, and has to be discreet after a session was opened.
-/

namespace AppletGateway

open Packed (pack)

namespace Service

variable {τ : Type} {α β : Type} {app : String} {t t' t'' : Turn (Observed τ)}
  {r : Except Status α}

/-! ## Apps that can be asked for -/

/-- The request to open a session with the app fits into a frame. -/
def Askable (app : String) : Prop :=
  Frame.encode (pack (Applet.Request.openSession app true)) ≠ none

/-- Whether the session is to be a shared one makes no difference. -/
theorem askable_iff (app : String) (shared : Bool) :
    Frame.encode (pack (Applet.Request.openSession app shared)) ≠ none ↔ Askable app := by
  have hlength : (pack (Applet.Request.openSession app shared)).length =
      (pack (Applet.Request.openSession app true)).length := by
    show (Packed.packTag 0 ++ pack app ++ pack shared).length =
      (Packed.packTag 0 ++ pack app ++ pack true).length
    simp only [List.length_append]
    rfl
  exact not_congr ⟨fun h => Frame.encode_eq_none_of_le h nofun (Nat.le_of_eq hlength),
    fun h => Frame.encode_eq_none_of_le h nofun (Nat.le_of_eq hlength.symm)⟩

/-- A request that names the app and says no more is a shorter one. -/
theorem Askable.fits (h : Askable app) {q : Applet.Request} {tag : Nat}
    (hq : pack q = Packed.packTag tag ++ pack app)
    (htag : (Packed.packTag tag).length = (Packed.packTag 0).length) :
    Frame.encode (pack q) ≠ none := by
  rw [hq]
  refine fun hnone => h (Frame.encode_eq_none_of_le hnone (fun hempty => ?_) ?_)
  · have hlength := congrArg List.length (List.append_eq_nil_iff.mp hempty).1
    rw [htag] at hlength
    cases hlength
  · show (Packed.packTag tag ++ pack app).length ≤
      (Packed.packTag 0 ++ pack app ++ pack true).length
    simp only [List.length_append, htag]
    omega

/-! ## Steps that offer something or change nothing -/

/-- The number of bytes offered so far. -/
def Turn.offered (t : Turn (Observed τ)) : Nat := t.link.transport.offered.length

/-- What holds of a turn on the row of an app all along. -/
structure Fit (app : String) (t : Turn (Observed τ)) : Prop where
  own_name : t.row.app = app
  room : 0 < t.link.maxMessage
  askable : t.row.isVacant = false → Askable app

/-- A row that holds nothing has become another one that holds nothing. -/
structure Vain (t t' : Turn (Observed τ)) : Prop where
  link : t'.link = t.link
  tokens : t'.tokens = t.tokens
  before : t.row.isVacant = true
  after : t'.row.isVacant = true

/-- Something was offered, or nothing was changed, or the step has failed and nothing has come of
its changes. -/
inductive Hushed (t : Turn (Observed τ)) (r : Except Status α) (t' : Turn (Observed τ)) : Prop
  | offers (h : t.offered < t'.offered)
  | nothing (h : t' = t)
  | vain (hr : ∃ e, r = .error e) (h : Vain t t')

/-- How a step ends that offers something or changes nothing. -/
structure Careful (app : String) (t : Turn (Observed τ)) (r : Except Status α)
    (t' : Turn (Observed τ)) : Prop where
  fit : Fit app t'
  offered : t.offered ≤ t'.offered
  hushed : t.link.connected = true → Hushed t r t'

/-- How a step ends that, if it fails, has offered something or changed nothing. -/
structure Atomic (app : String) (t : Turn (Observed τ)) (r : Except Status α)
    (t' : Turn (Observed τ)) : Prop where
  fit : Fit app t'
  offered : t.offered ≤ t'.offered
  hushed : t.link.connected = true → ∀ e, r = .error e → Hushed t r t'

def Discreet (app : String) (x : OnRow (Observed τ) α) : Prop :=
  ∀ t, Fit app t → Ends x t (Careful app t)

def Rejecting (app : String) (x : OnRow (Observed τ) α) : Prop :=
  ∀ t, Fit app t → Ends x t (Atomic app t)

theorem Fit.careful (h : Fit app t) (r : Except Status α) : Careful app t r t :=
  ⟨h, Nat.le_refl _, fun _ => .nothing rfl⟩

theorem Careful.atomic (h : Careful app t r t') : Atomic app t r t' :=
  ⟨h.fit, h.offered, fun hc _ _ => h.hushed hc⟩

theorem Fit.atomic (h : Fit app t) (r : Except Status α) : Atomic app t r t :=
  (h.careful r).atomic

/-- A turn that was changed at its row only is fit as long as the row keeps its name and, unless the
app can be asked for, holds nothing. -/
theorem Fit.withRow (h : Fit app t) {row : Row} (hname : row.app = t.row.app)
    (hvacant : t.row.isVacant = true → row.isVacant = true ∨ Askable app) :
    Fit app { t with row := row } where
  own_name := hname.trans h.own_name
  room := h.room
  askable hrow := by
    cases hv : t.row.isVacant with
    | false => exact h.askable hv
    | true =>
      rcases hvacant hv with hrow' | hask
      · exact nomatch hrow.symm.trans hrow'
      · exact hask

/-- What is done after a step that has succeeded. -/
theorem Careful.hushed_trans {a : α} {r : Except Status β} (h : Careful app t (.ok a) t')
    (hc : t.link.connected = true) (hoffered : t'.offered ≤ t''.offered)
    (h' : t'.link.connected = true → Hushed t' r t'') : Hushed t r t'' := by
  rcases h.hushed hc with hoffers | rfl | ⟨⟨_, hr⟩, _⟩
  · exact .offers (Nat.lt_of_lt_of_le hoffers hoffered)
  · exact h' hc
  · cases hr

theorem Careful.trans {a : α} {r : Except Status β} (h : Careful app t (.ok a) t')
    (h' : Careful app t' r t'') : Careful app t r t'' :=
  ⟨h'.fit, Nat.le_trans h.offered h'.offered,
    fun hc => h.hushed_trans hc h'.offered h'.hushed⟩

theorem Careful.trans_atomic {a : α} {r : Except Status β} (h : Careful app t (.ok a) t')
    (h' : Atomic app t' r t'') : Atomic app t r t'' :=
  ⟨h'.fit, Nat.le_trans h.offered h'.offered,
    fun hc e he => h.hushed_trans hc h'.offered fun hc => h'.hushed hc e he⟩

/-- A failure stays what it is for whatever was to come. -/
theorem Careful.error {e : Status} (h : Careful (α := α) app t (.error e) t') :
    Careful (α := β) app t (.error e) t' where
  fit := h.fit
  offered := h.offered
  hushed hc := by
    rcases h.hushed hc with hoffers | hsame | ⟨_, hvain⟩
    · exact .offers hoffers
    · exact .nothing hsame
    · exact .vain ⟨e, rfl⟩ hvain

theorem Discreet.bind {x : OnRow (Observed τ) α} {f : α → OnRow (Observed τ) β}
    (hx : Discreet app x) (hf : ∀ a, Discreet app (f a)) : Discreet app (x >>= f) := by
  intro t ht
  rw [ends_bind]
  refine (hx t ht).mono fun r t' h => ?_
  cases r with
  | error e => exact h.error
  | ok a => exact (hf a t' h.fit).mono fun _ _ h' => h.trans h'

theorem Discreet.rejecting_bind {x : OnRow (Observed τ) α} {f : α → OnRow (Observed τ) β}
    (hx : Discreet app x) (hf : ∀ a, Rejecting app (f a)) : Rejecting app (x >>= f) := by
  intro t ht
  rw [ends_bind]
  refine (hx t ht).mono fun r t' h => ?_
  cases r with
  | error e => exact h.error.atomic
  | ok a => exact (hf a t' h.fit).mono fun _ _ h' => h.trans_atomic h'

theorem discreet_pure (a : α) : Discreet app (pure a : OnRow (Observed τ) α) :=
  fun _ ht => ht.careful _

theorem discreet_throw (e : Status) : Discreet app (throw e : OnRow (Observed τ) α) :=
  fun _ ht => ht.careful _

theorem discreet_ofExcept (x : Except Status α) :
    Discreet app (ofExcept x : OnRow (Observed τ) α) := by
  cases x with
  | error e => exact discreet_throw e
  | ok a => exact discreet_pure a

theorem rejecting_get {f : Turn (Observed τ) → OnRow (Observed τ) α}
    (hf : ∀ t, Fit app t → Ends (f t) t (Atomic app t)) : Rejecting app (get >>= f) := by
  intro t ht
  rw [ends_bind]
  exact hf t ht

/-- A step that succeeds. -/
def Final (app : String) (x : OnRow (Observed τ) α) : Prop :=
  ∀ t, Fit app t → Ends x t fun r t' => (∃ a, r = .ok a) ∧ Fit app t' ∧ t.offered ≤ t'.offered

theorem Final.rejecting {x : OnRow (Observed τ) α} (hx : Final app x) : Rejecting app x :=
  fun t ht => (hx t ht).mono fun _ _ ⟨⟨_, hr⟩, hfit, hoffered⟩ =>
    ⟨hfit, hoffered, fun _ _ he => nomatch hr.symm.trans he⟩

theorem final_pure (a : α) : Final app (pure a : OnRow (Observed τ) α) :=
  fun _ ht => ⟨⟨a, rfl⟩, ht, Nat.le_refl _⟩

theorem Final.bind {x : OnRow (Observed τ) α} {f : α → OnRow (Observed τ) β} (hx : Final app x)
    (hf : ∀ a, Final app (f a)) : Final app (x >>= f) := by
  intro t ht
  rw [ends_bind]
  refine (hx t ht).mono fun r t' ⟨⟨a, hr⟩, hfit, hoffered⟩ => ?_
  subst hr
  rw [andThen_ok]
  exact (hf a t' hfit).mono fun _ _ ⟨hr, hfit', hoffered'⟩ =>
    ⟨hr, hfit', Nat.le_trans hoffered hoffered'⟩

theorem final_modifyRow {change : Row → Row} (h : ∀ row : Row, (change row).app = row.app ∧
    (row.isVacant = true → (change row).isVacant = true ∨ Askable app)) :
    Final app (modifyRow change : OnRow (Observed τ) Unit) :=
  fun t ht => ⟨⟨(), rfl⟩, ht.withRow (h t.row).1 (h t.row).2, Nat.le_refl _⟩

theorem final_issueToken (hask : Askable app) (owner : ProcessId) :
    Final app (issueToken owner : OnRow (Observed τ) UInt32) := by
  intro t ht
  have hname : ((issueToken owner).run t).2.row.app = t.row.app := by
    cases htok : t.row.token with
    | some id => simp [issueToken, Registry.issueToken, htok, StateT.run, ExceptT.run]
    | none => simp [issueToken, Registry.issueToken, htok, StateT.run, ExceptT.run]
  exact ⟨⟨_, rfl⟩, ⟨hname.trans ht.own_name, ht.room, fun _ => hask⟩, Nat.le_refl _⟩

/-- A change of the row that can fail, and after it only what cannot. -/
theorem rejecting_changeRow_bind (hask : Askable app) {change : Row → Except Status Row}
    (h : ∀ row row', change row = .ok row' → row'.app = row.app)
    {f : Unit → OnRow (Observed τ) α} (hf : Final app (f ())) :
    Rejecting app (changeRow change >>= f) := by
  intro t ht
  simp only [changeRow, ends_bind, ends_get, andThen_ok]
  cases hc : change t.row with
  | error e => exact ht.atomic _
  | ok row =>
    have hfit : Fit app { t with row := row } := ht.withRow (h _ _ hc) fun _ => .inr hask
    show Ends (f ()) { t with row := row } _
    refine (hf _ hfit).mono fun r t' hend => ?_
    obtain ⟨⟨a, rfl⟩, hfit', hoffered⟩ := hend
    refine ⟨hfit', hoffered, fun _ e he => ?_⟩
    cases he

theorem rejecting_changeRow (hask : Askable app) {change : Row → Except Status Row}
    (h : ∀ row row', change row = .ok row' → row'.app = row.app) :
    Rejecting app (changeRow change : OnRow (Observed τ) Unit) := by
  rw [← bind_pure (changeRow change)]
  exact rejecting_changeRow_bind hask h (final_pure ())

theorem app_bind {row row' : Row} {handler : Handler} (h : row.bind handler = .ok row') :
    row'.app = row.app := by
  rcases bind_cases h with rfl | rfl <;> rfl

theorem app_beginProvisioning {row row' : Row} {handle : UInt32}
    (h : row.beginProvisioning handle = .ok row') : row'.app = row.app := by
  unfold Row.beginProvisioning at h
  split at h
  · cases h
  · obtain rfl := Except.ok.inj h
    rfl

theorem discreet_sessionHandle (handle : Option UInt32) :
    Discreet app (sessionHandle handle : OnRow (Observed τ) UInt32) := by
  cases handle with
  | none => exact discreet_pure _
  | some handle =>
    intro t ht
    rw [sessionHandle, ends_bind, ends_get, andThen_ok]
    exact ((discreet_ofExcept _).bind fun _ => discreet_pure _) t ht

/-! ## After an offer -/

theorem isVacant_unbind {row : Row} (h : row.isVacant = true) : row.unbind.isVacant = true := by
  obtain ⟨hl, hp, _, ht⟩ := Row.isVacant_iff.mp h
  exact Row.isVacant_iff.mpr ⟨hl, hp, rfl, ht⟩

theorem isVacant_endProvisioning {row : Row} (h : row.isVacant = true) :
    row.endProvisioning.isVacant = true := by
  obtain ⟨hl, _, hc, ht⟩ := Row.isVacant_iff.mp h
  exact Row.isVacant_iff.mpr ⟨hl, rfl, hc, ht⟩

/-- A fit turn with no fewer than `n` bytes offered. -/
structure FitFrom (app : String) (n : Nat) (t : Turn (Observed τ)) : Prop where
  fit : Fit app t
  offered : n ≤ t.offered

/-- Once there was an offer nothing has to be careful any more. -/
theorem Discreet.keeps {n : Nat} {x : OnRow (Observed τ) α} (hx : Discreet app x) :
    Keeps (FitFrom app n) x :=
  fun t ht => (hx t ht.fit).mono fun _ _ h => ⟨h.fit, Nat.le_trans ht.offered h.offered⟩

theorem keeps_fit_modifyRow {n : Nat} {change : Row → Row}
    (h : ∀ row : Row, (change row).app = row.app ∧
      (row.isVacant = true → (change row).isVacant = true ∨ Askable app)) :
    Keeps (FitFrom app n) (modifyRow change : OnRow (Observed τ) Unit) :=
  fun t ht => ⟨ht.fit.withRow (h t.row).1 (h t.row).2, ht.offered⟩

theorem keeps_fit_changeRow {n : Nat} (hask : Askable app) {change : Row → Except Status Row}
    (h : ∀ row row', change row = .ok row' → row'.app = row.app) :
    Keeps (FitFrom app n) (changeRow change : OnRow (Observed τ) Unit) := by
  intro t ht
  simp only [changeRow, ends_bind, ends_get, andThen_ok]
  cases hc : change t.row with
  | error e => exact ht
  | ok row => exact ⟨ht.fit.withRow (h _ _ hc) fun _ => .inr hask, ht.offered⟩

/-! ## Requests -/

section

variable [Transport τ]

/-- Whatever is exchanged, the turn stays fit and no offer is taken back. -/
theorem Fit.after (h : Fit app t) (q : Applet.Request) :
    Fit app (t.after q) ∧ t.offered ≤ (t.after q).offered :=
  ⟨⟨h.own_name, Link.stable_room.exchange q t.link h.room, h.askable⟩,
    (Link.stable_offered t.offered).exchange q t.link (Nat.le_refl _)⟩

/-- A request that fits into a frame is offered. -/
theorem Fit.offers (h : Fit app t) (hc : t.link.connected = true) {q : Applet.Request}
    (hq : Frame.encode (pack q) ≠ none) : t.offered < (t.after q).offered :=
  Link.offers_exchange hc h.room hq

/-- A request that does not fit into a frame changes nothing. -/
theorem after_of_unfit {q : Applet.Request} (hq : Frame.encode (pack q) = none) :
    t.after q = t := by
  have hlink := (Link.exchange_of_unfit (l := t.link) hq).2
  rw [Turn.after, hlink]

/-- Whatever a request is answered, it was offered or has changed nothing. -/
theorem Fit.careful_after (h : Fit app t) (q : Applet.Request) (r : Except Status α) :
    Careful app t r (t.after q) := by
  obtain ⟨hfit, hoffered⟩ := h.after q
  refine ⟨hfit, hoffered, fun hc => ?_⟩
  by_cases hq : Frame.encode (pack q) = none
  · exact .nothing (after_of_unfit hq)
  · exact .offers (h.offers hc hq)

theorem discreet_call (q : Applet.Request) :
    Discreet app (call q : OnRow (Observed τ) Applet.Reply) :=
  fun _ ht => ht.careful_after q _

/-- Once the co-processor has answered nothing has to be careful any more. -/
theorem rejecting_call_bind (q : Applet.Request) {f : Applet.Reply → OnRow (Observed τ) α}
    (hf : ∀ reply n, Keeps (FitFrom app n) (f reply)) : Rejecting app (call q >>= f) := by
  intro t ht
  have hanswered : Ends (call q) t fun r t' =>
      t' = t.after q ∧ ((∃ reply, r = .ok reply) → Frame.encode (pack q) ≠ none) := by
    refine ⟨rfl, fun ⟨reply, hr⟩ hq => ?_⟩
    obtain ⟨e, he⟩ := (Link.exchange_of_unfit (l := t.link) hq).1
    have herror : ((call q).run t).1 = .error e.status :=
      congrArg (Except.mapError LinkError.status) he
    exact nomatch hr.symm.trans herror
  rw [ends_bind]
  refine hanswered.mono fun r t₁ ⟨h₁, hfits⟩ => ?_
  subst h₁
  cases r with
  | error e => exact (ht.careful_after q _).atomic
  | ok reply =>
    obtain ⟨hfit, hoffered⟩ := ht.after q
    refine (hf reply _ _ ⟨hfit, Nat.le_refl _⟩).mono fun r t' hfrom => ?_
    exact ⟨hfrom.fit, Nat.le_trans hoffered hfrom.offered, fun hc _ _ =>
      .offers (Nat.lt_of_lt_of_le (ht.offers hc (hfits ⟨reply, rfl⟩)) hfrom.offered)⟩

theorem discreet_subscribe : Discreet app (subscribe : OnRow (Observed τ) Unit) := by
  intro t ht
  rw [subscribe, ends_bind, ends_get, andThen_ok]
  exact ((discreet_call _).bind fun _ => discreet_ofExcept _) t ht

theorem discreet_unsubscribeQuietly :
    Discreet app (unsubscribeQuietly : OnRow (Observed τ) Unit) := by
  intro t ht
  rw [ends_unsubscribeQuietly_eq]
  split
  · exact ht.careful_after _ _
  · exact ht.careful _

/-- A row that says that a session is open is not vacant. -/
theorem isVacant_of_loaded {row : Row} (h : row.loaded = true) : row.isVacant = false := by
  simp [Row.isVacant, h]

/-- Closing a session makes an offer, since the request for it once did. -/
theorem Fit.closed (h : Fit app t) (hl : t.row.loaded = true) :
    Fit app { t.after (.closeSession t.row.app) with row := { t.row with loaded := false } } ∧
      t.offered ≤ (t.after (.closeSession t.row.app)).offered ∧
      (t.link.connected = true → t.offered < (t.after (.closeSession t.row.app)).offered) := by
  have hask : Askable app := h.askable (isVacant_of_loaded hl)
  obtain ⟨hfit, hoffered⟩ := h.after (.closeSession t.row.app)
  refine ⟨hfit.withRow rfl fun _ => .inr hask, hoffered, fun hc => h.offers hc ?_⟩
  rw [h.own_name]
  exact hask.fits rfl rfl

theorem discreet_closeQuietly : Discreet app (closeQuietly : OnRow (Observed τ) Unit) := by
  intro t ht
  rw [ends_closeQuietly_eq]
  split
  · rename_i hl
    obtain ⟨hfit, hoffered, hoffers⟩ := ht.closed hl
    exact ⟨hfit, hoffered, fun hc => .offers (hoffers hc)⟩
  · exact ht.careful _

/-! ## Opening a session -/

/-- What follows when the co-processor has answered the request to open a session. -/
theorem keeps_opened {n : Nat} (hask : Askable app) (reply : Applet.Reply) (epoch : Nat)
    (subscribes : Bool) : Keeps (FitFrom app n) (do
      ofExcept reply.asDone
      modifyRow fun row => { row with loaded := true, openedOn := epoch }
      if subscribes then subscribe : OnRow (Observed τ) Unit) := by
  refine (discreet_ofExcept _).keeps.bind fun _ => Keeps.bind ?_ fun _ => ?_
  · exact keeps_fit_modifyRow fun _ => ⟨rfl, fun _ => .inr hask⟩
  · exact keeps_ite discreet_subscribe.keeps (keeps_pure ())

/-- If the row says that no session is open, opening one makes an offer, or the request does not fit
into a frame and nothing is done. -/
theorem ends_ensureLoaded_unloaded (ht : Fit app t) (hl : t.row.loaded = false) :
    Ends ensureLoaded t fun r t' => FitFrom app t.offered t' ∧
      (t.link.connected = true → t.offered < t'.offered ∨
        (¬ Askable app ∧ (∃ e, r = .error e) ∧ t' = t)) ∧
      (r = .ok () → Askable app) := by
  have hclosed : ¬ t.row.loaded = true := Bool.eq_false_iff.mp hl
  rw [ensureLoaded, ends_bind, ends_dropStale_eq, if_neg fun h => hclosed h.1, andThen_ok,
    ends_bind, ends_get, andThen_ok, if_neg hclosed, ends_bind]
  generalize hopening : Applet.Request.openSession t.row.app t.row.shared = q
  have hiff : Frame.encode (pack q) ≠ none ↔ Askable app := by
    rw [← hopening, ht.own_name]
    exact askable_iff app t.row.shared
  have hcall : Ends (call q) t fun _ t' => t' = t.after q := rfl
  by_cases hask : Askable app
  · -- The request is offered if there is a connection, and the rest does not take that back.
    have hlate : ∀ {r : Except Status Unit} {t' : Turn (Observed τ)},
        FitFrom app (t.after q).offered t' → FitFrom app t.offered t' ∧
          (t.link.connected = true → t.offered < t'.offered ∨
            (¬ Askable app ∧ (∃ e, r = .error e) ∧ t' = t)) ∧ (r = .ok () → Askable app) :=
      fun h => ⟨⟨h.fit, Nat.le_trans (ht.after q).2 h.offered⟩,
        fun hc => .inl (Nat.lt_of_lt_of_le (ht.offers hc (hiff.mpr hask)) h.offered),
        fun _ => hask⟩
    have hfrom : FitFrom app (t.after q).offered (t.after q) := ⟨(ht.after q).1, Nat.le_refl _⟩
    refine hcall.mono fun r t₁ h₁ => ?_
    subst h₁
    cases r with
    | error e => exact hlate hfrom
    | ok reply => exact (keeps_opened hask reply _ _ _ hfrom).mono fun _ _ => hlate
  · have hq : Frame.encode (pack q) = none := Decidable.not_not.mp (mt hiff.mp hask)
    have hfails : Ends (call q) t fun r _ => ∃ e, r = .error e := by
      obtain ⟨e, he⟩ := (Link.exchange_of_unfit (l := t.link) hq).1
      exact ⟨e.status, congrArg (Except.mapError LinkError.status) he⟩
    refine (hcall.and hfails).mono fun r t₁ hend => ?_
    obtain ⟨rfl, e, rfl⟩ := hend
    rw [after_of_unfit hq]
    refine ⟨⟨ht, Nat.le_refl _⟩, fun _ => .inr ⟨hask, ⟨e, rfl⟩, rfl⟩, fun hok => ?_⟩
    cases hok

/-- The step makes an offer or changes nothing, and it succeeds only for an app that can be asked
for. -/
def Opens (app : String) (x : OnRow (Observed τ) Unit) : Prop :=
  ∀ t, Fit app t → Ends x t fun r t' => Careful app t r t' ∧ (r = .ok () → Askable app)

omit [Transport τ] in
/-- What is to be done after a session has been opened is done for an app that can be asked for. -/
theorem Opens.rejecting_bind {x : OnRow (Observed τ) Unit} {f : Unit → OnRow (Observed τ) α}
    (hx : Opens app x) (hf : Askable app → Rejecting app (f ())) : Rejecting app (x >>= f) := by
  intro t ht
  rw [ends_bind]
  refine (hx t ht).mono fun r t' ⟨h, hask⟩ => ?_
  cases r with
  | error e => exact h.error.atomic
  | ok a => exact (hf (hask rfl) t' h.fit).mono fun _ _ h' => h.trans_atomic h'

omit [Transport τ] in
theorem Opens.keeps {n : Nat} {x : OnRow (Observed τ) Unit} (hx : Opens app x) :
    Keeps (FitFrom app n) x :=
  fun t ht => (hx t ht.fit).mono fun _ _ ⟨h, _⟩ => ⟨h.fit, Nat.le_trans ht.offered h.offered⟩

theorem opens_ensureLoaded : Opens app (ensureLoaded : OnRow (Observed τ) Unit) := by
  intro t ht
  cases hl : t.row.loaded with
  | false =>
    refine (ends_ensureLoaded_unloaded ht hl).mono fun r t' hend => ?_
    obtain ⟨hfrom, hoffers, hask⟩ := hend
    refine ⟨⟨hfrom.fit, hfrom.offered, fun hc => ?_⟩, hask⟩
    rcases hoffers hc with hoffers | ⟨_, _, hsame⟩
    · exact .offers hoffers
    · exact .nothing hsame
  | true =>
    have hask : Askable app := ht.askable (isVacant_of_loaded hl)
    by_cases hstale : t.row.openedOn = t.link.epoch
    · rw [ensureLoaded, ends_bind, ends_dropStale_eq, if_neg fun h => h.2 hstale, andThen_ok,
        ends_bind, ends_get, andThen_ok, if_pos hl]
      exact ⟨ht.careful _, fun _ => hask⟩
    · -- A session of an earlier connection is forgotten, and opened again.
      have hfit : Fit app { t with row := { t.row with loaded := false }.endProvisioning } :=
        ht.withRow rfl fun _ => .inr hask
      have hopen := ends_ensureLoaded_unloaded hfit rfl
      rw [ensureLoaded, ends_bind, ends_dropStale_eq, if_neg fun h => Bool.false_ne_true h.1,
        andThen_ok] at hopen
      rw [ensureLoaded, ends_bind, ends_dropStale_eq, if_pos ⟨hl, hstale⟩, andThen_ok]
      refine hopen.mono fun r t' hend => ?_
      obtain ⟨hfrom, hoffers, _⟩ := hend
      refine ⟨⟨hfrom.fit, hfrom.offered, fun hc => ?_⟩, fun _ => hask⟩
      rcases hoffers hc with hoffers | ⟨hno, _⟩
      · exact .offers hoffers
      · exact absurd hask hno

/-- Marking the session as one to be exclusive comes to nothing unless there is an offer. -/
theorem opens_exclusive : Opens app (do
    makeExclusive
    ensureLoaded : OnRow (Observed τ) Unit) := by
  intro t ht
  rw [ends_bind, ends_makeExclusive_eq]
  split
  · rename_i h
    obtain ⟨hfit, hoffered, hoffers⟩ := ht.closed h.1
    have hmarked : Fit app { t.after (.closeSession t.row.app) with
        row := { t.row with loaded := false, shared := false } } := hfit.withRow rfl .inl
    rw [andThen_ok]
    refine (ends_ensureLoaded_unloaded hmarked rfl).mono fun r t' ⟨hfrom, _, hask⟩ => ?_
    refine ⟨⟨hfrom.fit, Nat.le_trans hoffered hfrom.offered, fun hc => ?_⟩, hask⟩
    exact .offers (Nat.lt_of_lt_of_le (hoffers hc) hfrom.offered)
  · rename_i h
    rw [andThen_ok]
    cases hl : t.row.loaded with
    | true =>
      -- The session is an exclusive one already.
      have hexclusive : t.row.shared = false := Bool.eq_false_iff.mpr fun hx => h ⟨hl, hx⟩
      have hsame : { t with row := { t.row with shared := false } } = t :=
        congrArg (fun b => { t with row := { t.row with shared := b } }) hexclusive.symm
      rw [hsame]
      exact opens_ensureLoaded t ht
    | false =>
      have hfit : Fit app { t with row := { t.row with shared := false } } :=
        ht.withRow rfl .inl
      refine (ends_ensureLoaded_unloaded hfit hl).mono fun r t' ⟨hfrom, hoffers, hask⟩ => ?_
      refine ⟨⟨hfrom.fit, hfrom.offered, fun hc => ?_⟩, hask⟩
      rcases hoffers hc with hoffers | ⟨hno, hr, hsame⟩
      · exact .offers hoffers
      · have hvacant : t.row.isVacant = true :=
          Bool.of_not_eq_false fun hv => hno (ht.askable hv)
        subst hsame
        exact .vain hr ⟨rfl, rfl, hvacant, hvacant⟩

/-- The same for an exclusive session. -/
theorem rejecting_exclusive_bind {f : Unit → OnRow (Observed τ) α}
    (hf : Askable app → Rejecting app (f ())) : Rejecting app (do
      makeExclusive
      ensureLoaded
      f ()) := by
  have hassoc : (do
      makeExclusive
      ensureLoaded
      f () : OnRow (Observed τ) α) = (do
        makeExclusive
        ensureLoaded) >>= fun _ => f () := (bind_assoc _ _ _).symm
  rw [hassoc]
  exact opens_exclusive.rejecting_bind hf

end

end Service

end AppletGateway
