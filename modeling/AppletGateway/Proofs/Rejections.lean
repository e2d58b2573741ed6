import AppletGateway.Proofs.Discretion
import AppletGateway.Proofs.Instances

/-!
# Rejected operations

An operation that fails before anything is offered to the channel has changed nothing: no row, no
token, and nothing of the link. An app has a row only if there is a reason for it, so the app can be
asked for, and what an operation has done to the row on the way to its failure has made an offer, or
it was done to a row that was made for the operation and is dropped again.

Results:
* `Service.spared_perform`: an operation that fails without an offer changes nothing in a state
  where there is a reason for each row.
* `Service.ends_init_spared`, `Service.ends_deinit_spared`: what connecting and tearing down do
  there.
* `Service.Reached.tidy`: every state that is reached is such a state.
-/

namespace AppletGateway

/-- A link that could not connect is as before over its channel. -/
theorem Link.ends_connect_failed {τ : Type} [Transport τ] {l : Link τ} :
    Ends Link.connect l fun r l' =>
      ∀ e, r = .error e → l' = { l with transport := l'.transport } := by
  simp only [connect, ends_bind, ends_get, andThen_ok, ends_ite, ends_lift]
  split
  · intro e he
    cases he
  · split
    · rename_i hfailed
      have hopen : ¬ (openChannel.run l).1 = true := by simpa using hfailed
      intro e _
      simp only [openChannel, StateT.run] at hopen ⊢
      split at hopen
      · exact absurd rfl hopen
      · rfl
    · intro e he
      cases he

namespace Service

/-! ## The operations -/

variable {τ : Type} {α : Type} {app : String} {t : Turn (Observed τ)} {s s' : Service (Observed τ)}
  {o : Operation}

/-- Every row is there for a reason, and it is one of an app that can be asked for. -/
structure Tidy (s : Service (Observed τ)) : Prop where
  occupied : ∀ app row, s.registry.row? app = some row → row.isVacant = false
  askable : ∀ app row, s.registry.row? app = some row → Askable app
  room : 0 < s.link.maxMessage

/-- How an operation ends that, if it fails without an offer, has changed nothing. -/
structure Spared (s : Service (Observed τ)) (r : Except Status α) (s' : Service (Observed τ)) :
    Prop where
  tidy : Tidy s'
  unchanged : ∀ e, r = .error e → s'.link.transport.offered = s.link.transport.offered → s' = s

theorem Tidy.spared (h : Tidy s) (r : Except Status α) : Spared s r s := ⟨h, fun _ _ _ => rfl⟩

/-- Without rows there is nothing that needs a reason. -/
theorem tidy_of_no_rows (hrows : s.registry.rows = Table.empty) (hroom : 0 < s.link.maxMessage) :
    Tidy s := by
  have hnone (app : String) (row : Row) : s.registry.row? app ≠ some row := by
    rw [Registry.row?, hrows, Table.get?_empty]
    exact (Option.some_ne_none row).symm
  exact ⟨fun app row hrow => absurd hrow (hnone app row),
    fun app row hrow => absurd hrow (hnone app row), hroom⟩

theorem Tidy.fit_turn (h : Tidy s) (hs : s.registry.Sound) (app : String) :
    Fit app (s.turn app) where
  own_name := hs.app_rowOrFresh app
  room := h.room
  askable hv := by
    cases hrow : s.registry.row? app with
    | some row => exact h.askable app row hrow
    | none =>
      have hfresh : (s.turn app).row = .fresh app := by
        rw [turn, Registry.rowOrFresh, hrow]
        rfl
      rw [hfresh] at hv
      cases hv

theorem Tidy.settled (h : Tidy s) (ht : Fit app t) : Tidy (s.settled app t) where
  occupied := Registry.Occupied.settle h.occupied app ⟨t.row, t.tokens⟩
  askable other row hrow := by
    rcases Registry.row?_of_settle hrow with ⟨rfl, rfl, _, hheld⟩ | hrow
    · exact ht.askable hheld
    · exact h.askable other row hrow
  room := ht.room

/-- A turn that has changed nothing leaves no trace. -/
theorem Tidy.settled_turn (h : Tidy s) (hs : s.registry.Sound) (app : String) :
    s.settled app (s.turn app) = s := by
  refine congrArg (fun r => { s with registry := r })
    (Registry.settle_rowOrFresh fun row hrow => ?_)
  rw [hs.staying app row hrow, h.occupied app row hrow]
  rfl

/-- Neither does one that has come to nothing. -/
theorem Vain.settled (hv : Vain (s.turn app) t) (h : Tidy s) : s.settled app t = s := by
  have hrow : s.registry.row? app = none := by
    cases hrow : s.registry.row? app with
    | none => rfl
    | some row =>
      have hsame : (s.turn app).row = row := Registry.rowOrFresh_of_row? hrow
      have hvacant := hv.before
      rw [hsame, h.occupied app row hrow] at hvacant
      cases hvacant
  obtain ⟨_, _, _, htok⟩ := Row.isVacant_iff.mp hv.after
  have htokens : t.tokens = s.registry.tokens := hv.tokens
  have hlink : t.link = s.link := hv.link
  rw [Service.settled, htokens, hlink,
    Registry.settle_missing hrow (by rw [hv.after, Bool.or_true]) htok]

/-- A turn that fails without an offer has changed nothing. -/
theorem spared_turn (hs : s.registry.Sound) (h : Tidy s) (hc : s.link.connected = true)
    {x : OnRow (Observed τ) α} (hx : Rejecting app x) :
    Ends x (s.turn app) fun r t => Spared s r (s.settled app t) := by
  refine (hx _ (h.fit_turn hs app)).mono fun r t' ht => ⟨h.settled ht.fit, fun e he hsame => ?_⟩
  rcases ht.hushed hc e he with hoffers | rfl | ⟨_, hvain⟩
  · have hlength : t'.offered = (s.turn app).offered := congrArg List.length hsame
    omega
  · exact h.settled_turn hs app
  · exact hvain.settled h

variable [Transport τ]

/-- A task that fails has offered something, or it has changed nothing. -/
theorem Task.rejecting {x : OnRow (Observed τ) o.Answer} (h : Task o app x) : Rejecting app x := by
  cases h with
  | @inquiry _ _ handle =>
    exact (discreet_sessionHandle handle).rejecting_bind fun _ =>
      opens_ensureLoaded.rejecting_bind fun _ =>
        rejecting_call_bind _ fun _ _ => (discreet_ofExcept _).keeps
  | startProvisioning =>
    refine rejecting_get fun t ht => ends_reject (ht.atomic _) fun _ => ?_
    refine opens_ensureLoaded.rejecting_bind (fun hask => ?_) t ht
    refine rejecting_call_bind _ fun reply n => (discreet_ofExcept _).keeps.bind fun handle => ?_
    exact (keeps_fit_changeRow hask fun _ _ => app_beginProvisioning).bind fun _ => keeps_pure _
  | endProvisioning _ _ capacity =>
    refine rejecting_get fun t ht => ?_
    refine (discreet_ofExcept _).rejecting_bind (fun _ => ?_) t ht
    refine rejecting_call_bind _ fun reply n => ?_
    have hend : Keeps (FitFrom app n) (modifyRow Row.endProvisioning : OnRow (Observed τ) Unit) :=
      keeps_fit_modifyRow fun _ => ⟨rfl, fun hv => .inl (isVacant_endProvisioning hv)⟩
    rcases reply.asData capacity with e | (token | required)
    · exact keeps_ite (hend.bind fun _ => keeps_throw e) (keeps_throw e)
    · exact hend.bind fun _ => keeps_pure _
    · exact keeps_pure _
  | install =>
    exact rejecting_call_bind _ fun _ _ => (discreet_ofExcept _).keeps.bind fun _ =>
      opens_ensureLoaded.keeps
  | uninstall =>
    refine discreet_unsubscribeQuietly.rejecting_bind fun _ =>
      discreet_closeQuietly.rejecting_bind fun _ => rejecting_call_bind _ fun _ _ => ?_
    exact (discreet_ofExcept _).keeps.bind fun _ => keeps_fit_modifyRow fun _ => ⟨rfl, .inl⟩
  | appInstance =>
    refine rejecting_get fun t ht => ends_reject (ht.atomic _) fun hopen => ?_
    have hl : t.row.loaded = true := by
      cases hl : t.row.loaded with
      | true => rfl
      | false => simp [hl] at hopen
    have hask : Askable app := ht.askable (isVacant_of_loaded hl)
    exact ((final_issueToken hask _).bind fun _ => final_pure _).rejecting t ht
  | registerEvents _ handler =>
    refine rejecting_get fun t ht => ?_
    cases hbound : t.row.checkBind handler with
    | error e => exact ht.atomic _
    | ok bound =>
      cases bound with
      | true => exact ht.atomic _
      | false =>
        have hrest (hask : Askable app) : Rejecting app (do
            subscribe
            changeRow (Row.bind handler) : OnRow (Observed τ) Unit) :=
          discreet_subscribe.rejecting_bind fun _ => rejecting_changeRow hask fun _ _ => app_bind
        exact rejecting_exclusive_bind (f := fun _ => _) hrest t ht
  | unregisterEvents =>
    refine discreet_unsubscribeQuietly.rejecting_bind fun _ => Final.rejecting ?_
    exact final_modifyRow fun _ => ⟨rfl, fun hv => .inl (isVacant_unbind hv)⟩
  | startInstance =>
    refine rejecting_get fun t ht => ends_reject (ht.atomic _) fun _ => ?_
    exact opens_ensureLoaded.rejecting_bind
      (fun hask => (final_issueToken hask _).rejecting) t ht
  | startListening caller _ handler =>
    refine rejecting_get fun t ht => ends_reject (ht.atomic _) fun _ => ?_
    refine (rejecting_get fun t' ht' => ?_) t ht
    cases t'.row.checkBind handler with
    | error e => exact ht'.atomic _
    | ok _ =>
      have hrest (hask : Askable app) : Rejecting app (do
          subscribe
          changeRow (Row.bind handler)
          issueToken caller.process : OnRow (Observed τ) UInt32) :=
        discreet_subscribe.rejecting_bind fun _ =>
          rejecting_changeRow_bind hask (fun _ _ => app_bind) (final_issueToken hask _)
      exact rejecting_exclusive_bind (f := fun _ => _) hrest t' ht'
  | stopInstance =>
    refine rejecting_get fun t ht => ends_reject (ht.atomic _) fun _ => ?_
    refine (discreet_unsubscribeQuietly.rejecting_bind fun _ =>
      discreet_closeQuietly.rejecting_bind fun _ => Final.rejecting ?_) t ht
    exact final_modifyRow fun _ => ⟨rfl, .inl⟩

/-- Every operation other than connecting and tearing down that fails without an offer has changed
nothing. -/
theorem spared_perform (hs : s.registry.Sound) (h : Tidy s) (hi : o ≠ .init) (hd : o ≠ .deinit) :
    Ends (perform o) s (Spared s) :=
  ends_perform_of_tasks hi hd (fun _ _ => h.spared _) (fun _ _ => h.spared _)
    fun _ _ ha htask => spared_turn hs h ha.connected htask.rejecting

/-! ## Connecting and tearing down -/

/-- Connecting does not touch the registry, and if it fails, the link is as before over its
channel. -/
theorem ends_init_spared (h : Tidy s) : Ends init s fun r s' => Tidy s' ∧ ∀ e, r = .error e →
    s' = { s with link := { s.link with transport := s'.link.transport } } := by
  refine ends_init.mpr ?_
  have hroom : Ends Link.connect s.link fun _ l => 0 < l.maxMessage :=
    Link.stable_room.connect s.link h.room
  refine (hroom.and Link.ends_connect_failed).mono fun r l ⟨hroom, hfailed⟩ => ?_
  refine ⟨⟨h.occupied, h.askable, hroom⟩, fun e he => ?_⟩
  cases r with
  | error e => exact congrArg (fun l => { s with link := l }) (hfailed e rfl)
  | ok _ => cases he

/-- Ending what rows stand for leaves room for a message. -/
theorem room_closeAllDrained (rows : List Row) {l : Link (Observed τ)} (h : 0 < l.maxMessage) :
    0 < ((rows.forM closeDrained).run l).2.maxMessage := by
  obtain ⟨_, hc, _⟩ := converses_closeDrained rows l
  exact hc.keeps (fun l e _ hl => Link.stable_room.exchange e.1 l hl) h

/-- Tearing down does not fail. -/
theorem ends_deinit_spared (h : Tidy s) : Ends deinit s (Spared s) := by
  unfold Ends
  rw [run_deinit]
  split
  · have hroom := room_closeAllDrained (Registry.drain.run s.registry).1 h.room
    exact ⟨tidy_of_no_rows rfl (Link.stable_room.disconnect hroom), fun _ he => nomatch he⟩
  · exact h.spared _

/-! ## Reachable states -/

/-- The states of a service over a channel of any kind: whatever operations have been performed,
whenever events were polled or collected, and whatever the channel has come to by itself. -/
inductive Reached : Service (Observed τ) → Prop
  | start (client : Guid) (t : τ) (options : ServiceOptions) :
    Reached (new (Link.unused client t) options)
  | perform {s : Service (Observed τ)} (h : Reached s) (o : Operation) :
    Reached ((Service.perform o).run s).2
  | poll {s : Service (Observed τ)} (h : Reached s) : Reached (pollEvents.run s).2
  | collect {s : Service (Observed τ)} (h : Reached s) : Reached (takeEvents.run s).2
  | outside {s : Service (Observed τ)} (h : Reached s) (t : τ) :
    Reached { s with link := { s.link with transport := Link.becomes t s.link.transport } }

/-- The registry of a state that is reached is sound, and there is a reason for each of its rows. -/
theorem Reached.tidy (h : Reached s) : s.registry.Sound ∧ Tidy s := by
  induction h with
  | start client t options =>
    have hroom : 0 < Link.defaultMessage := by decide
    exact ⟨Registry.sound_new, tidy_of_no_rows rfl hroom⟩
  | @perform s _ o ih =>
    refine ⟨sound_perform ih.1 o, ?_⟩
    by_cases hi : o = .init
    · subst hi
      exact (ends_init_spared ih.2).1
    by_cases hd : o = .deinit
    · subst hd
      exact (ends_deinit_spared ih.2).tidy
    exact (spared_perform ih.1 ih.2 hi hd).tidy
  | @poll s _ ih =>
    exact ⟨ih.1, ih.2.occupied, ih.2.askable, Link.stable_room.pollEvents s.link ih.2.room⟩
  | collect _ ih => exact ⟨ih.1, ih.2.occupied, ih.2.askable, ih.2.room⟩
  | outside _ _ ih => exact ⟨ih.1, ih.2.occupied, ih.2.askable, ih.2.room⟩

end Service

end AppletGateway
