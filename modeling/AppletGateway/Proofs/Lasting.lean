import AppletGateway.Proofs.Courses
import AppletGateway.Proofs.Runs
import AppletGateway.Proofs.Standing

/-!
# What outlasts the moves of others

A relation between the row of an app and its standing with the device can be lost by an operation on
the app itself only, if it holds of fresh rows, outlasts the loss of the connection and does not
depend on the requests that the device has received: requests about other apps leave the seat of the
app alone, tearing down drops the row, and everything else that can happen changes the connection at
most.

Results:
* `Service.Lasting.move`: such a relation is kept by every move that is not an operation on the app.
* `Service.Lasting.move_of_turns`: it is kept by every move if the turns of the app's row keep it.
-/

namespace AppletGateway

namespace Service

open Link (Converses Sane Quiet)

variable {app : String} {o : Operation} {s : Service Attended} {t t' : Turn Attended}
  {l l' : Link Attended} {row : Row} {J : Row → Standing → Prop}

/-! ## Links that stay sane -/

theorem Conversed.sane (h : Conversed o app l l') (hs : l.Sane) : l'.Sane := by
  obtain ⟨talk, hc, _⟩ := h
  exact hc.keeps (fun l e _ hl => hl.exchange e.1) hs

theorem Course.sane (h : Course o app t t') (ht : t.row.app = app) (hs : t.link.Sane) :
    t'.link.Sane := (h.conversed ht).sane hs

/-! ## Relations that last -/

/-- The relation holds of fresh rows, and of a row as long as the session of the row is not
touched. -/
structure Lasting (J : Row → Standing → Prop) : Prop where
  fresh : ∀ app a, J (.fresh app) a
  lost : ∀ {row : Row} {a a' : Standing}, J row a → a.Lost a' → J row a'
  received : ∀ {row : Row} {a : Standing} (qs : List Applet.Request),
    J row a → J row { a with received := qs }

/-- The row of an app and its standing are related. -/
def Holds (J : Row → Standing → Prop) (app : String) (s : Service Attended) : Prop :=
  J (s.registry.rowOrFresh app) (s.link.standing app)

/-- A turn that leaves its row in the relation leaves the registry so, whether the row is kept or
dropped. -/
theorem holds_settled (hfresh : ∀ a, J (.fresh app) a) (h : J t.row (t.link.standing app)) :
    Holds J app (s.settled app t) := by
  rw [Holds, settled, Registry.rowOrFresh_settle]
  split
  · exact hfresh _
  · exact h

variable (hJ : Lasting J)

include hJ

/-- A request about another app leaves the relation as it is. -/
theorem Lasting.exchange (hs : l.Sane) {q : Applet.Request} (hne : q.app ≠ app)
    (h : J row (l.standing app)) : J row (((Link.exchange q).run l).2.standing app) := by
  have hx := Link.standing_exchange hs.quiet q app
  generalize ((Link.exchange q).run l).1 = r at hx
  generalize ((Link.exchange q).run l).2.standing app = a' at hx
  cases hx with
  | unsent _ _ => exact h
  | lost _ hlost _ => exact hJ.lost h hlost
  | served _ hseat =>
    rw [if_neg hne] at hseat
    rw [hseat]
    exact hJ.received _ h

theorem Lasting.conversed {other : String} (hc : Conversed o other l l') (hs : l.Sane)
    (hne : other ≠ app) (h : J row (l.standing app)) : J row (l'.standing app) := by
  obtain ⟨talk, hc, hasks⟩ := hc
  refine (hc.keeps (P := fun l => l.Sane ∧ J row (l.standing app)) (fun l e he hl => ?_)
    ⟨hs, h⟩).2
  refine ⟨hl.1.exchange e.1, hJ.exchange hl.1 ?_ hl.2⟩
  rw [(hasks e he).app]
  exact hne

/-- An operation on another app leaves the relation as it is. -/
theorem Lasting.perform_of_ne (hs : Healthy s) (h : Holds J app s) (hi : o ≠ .init)
    (hd : o ≠ .deinit) (ht : target s o ≠ some app) : Holds J app (move (.perform o) s) := by
  refine (ends_goes hs.sound hi hd).mono (R := fun _ s' => Holds J app s') fun r s' hg => ?_
  cases hg with
  | nothing => exact h
  | @turn other t _ ha hended =>
    have hne : other ≠ app := by
      rintro rfl
      exact ht ha.target
    have hrow : (s.settled other t).registry.rowOrFresh app = s.registry.rowOrFresh app :=
      congrArg (Option.getD · _) (Registry.get?_settle_of_ne s.registry ⟨t.row, t.tokens⟩ hne)
    show J ((s.settled other t).registry.rowOrFresh app) (t.link.standing app)
    rw [hrow]
    exact hJ.conversed (hended.conversed (hs.sound.app_rowOrFresh other)) hs.sane hne h

/-- What is not an operation on the app itself leaves the relation as it is. -/
theorem Lasting.move (hs : Healthy s) (h : Holds J app s) {m : Move}
    (hown : ∀ o, m = .perform o → target s o = some app → Holds J app (move m s)) :
    Holds J app (move m s) := by
  have hdrift {a : Standing} (ha : (s.link.standing app).Drifted a) :
      J (s.registry.rowOrFresh app) a := by
    rcases ha with rfl | ⟨hlost, _⟩
    · exact h
    · exact hJ.lost h hlost
  cases m with
  | perform o =>
    by_cases hi : o = .init
    · subst hi
      have hinit : Ends init s fun _ s' => Holds J app s' :=
        ends_init.mpr ((Link.standing_connect hs.sane.quiet app).mono fun _ _ ha => hdrift ha)
      exact hinit
    by_cases hd : o = .deinit
    · subst hd
      refine (ends_deinit hs.sane).mono (R := fun _ s' => Holds J app s') fun r s' h' => ?_
      rcases h' with ⟨_, ⟨_, rfl⟩ | ⟨_, hreg, _, _⟩⟩
      · exact h
      · have hrow : s'.registry.rowOrFresh app = .fresh app := by
          rw [Registry.rowOrFresh, hreg]
          rfl
        show J (s'.registry.rowOrFresh app) _
        rw [hrow]
        exact hJ.fresh app _
    by_cases ht : target s o = some app
    · exact hown o rfl ht
    · exact hJ.perform_of_ne hs h hi hd ht
  | poll =>
    have hpoll : Ends pollEvents s fun _ s' => Holds J app s' :=
      ends_pollEvents.mpr
        ((Link.standing_pollEvents hs.sane.quiet app).mono fun _ _ ha => hdrift ha)
    exact hpoll
  | control c =>
    have hd : s.link.transport.device.SameSessions
        (Service.move (.control c) s).link.transport.device := .apply c _
    have hstanding : (Service.move (.control c) s).link.standing app = s.link.standing app := by
      refine Link.standing_of_sameSessions ?_ ?_ hd app <;> rfl
    show J (s.registry.rowOrFresh app) _
    rw [hstanding]
    exact h

/-- What a course and a cut of an operation on the app keep is kept by every move. -/
theorem Lasting.move_of_turns (hs : Healthy s) (h : Holds J app s)
    (hcourse : ∀ {o : Operation} {t : Turn Attended}, Course o app (s.turn app) t →
      J t.row (t.link.standing app))
    (hcut : ∀ {o : Operation} {t : Turn Attended}, Cut o app (s.turn app) t →
      J t.row (t.link.standing app)) (m : Move) : Holds J app (Service.move m s) := by
  refine hJ.move hs h fun o hm ht => ?_
  subst hm
  by_cases hi : o = .init
  · subst hi
    cases ht
  by_cases hd : o = .deinit
  · subst hd
    cases ht
  refine (ends_goes hs.sound hi hd).mono (R := fun _ s' => Holds J app s') fun r s' hg => ?_
  cases hg with
  | nothing => exact h
  | @turn other t _ ha hended =>
    obtain rfl : other = app := Option.some.inj (ha.target.symm.trans ht)
    refine holds_settled (hJ.fresh other) ?_
    cases r with
    | ok a => exact hcourse hended
    | error e =>
      rcases hended with hc | hc
      · exact hcourse hc
      · exact hcut hc

end Service

end AppletGateway
