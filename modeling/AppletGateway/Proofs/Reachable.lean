import AppletGateway.Proofs.Sessions

/-!
# Reachable states

The states of a gateway in front of the simulated co-processor: whatever operations have been
performed, whatever the operator of the device has done between and within them, and whenever the
events handed on were collected.

Results:
* `Service.Reachable.healthy`, `Service.Reachable.mirrors`: the link is sane, the registry sound,
  and rows and sessions agree.
* `Service.Reachable.boundExclusive`: a row with a handler has an exclusive session.
-/

namespace AppletGateway

namespace Service

variable {app : String} {o : Operation} {s : Service Attended} {t t' : Turn Attended}
  {J : Row → Standing → Prop}

/-- A gateway in front of a device with some apps installed, after any moves. -/
inductive Reachable : Service Attended → Prop
  | start (apps : List String) (client : Guid) (options : ServiceOptions)
    (agenda : List (List Control)) : Reachable (start apps client options agenda)
  | move {s : Service Attended} (h : Reachable s) (m : Move) : Reachable (move m s)
  /-- The events handed on are collected. -/
  | collect {s : Service Attended} (h : Reachable s) : Reachable (takeEvents.run s).2

/-! ## Collecting events -/

theorem Healthy.collect (h : Healthy s) : Healthy (takeEvents.run s).2 :=
  ⟨⟨⟨h.sane.quiet.connected, h.sane.quiet.inbox, h.sane.quiet.outbox, h.sane.quiet.decoder,
    h.sane.quiet.room, h.sane.quiet.closed⟩, h.sane.numbered⟩, h.sound⟩

theorem Reachable.healthy (h : Reachable s) : Healthy s := by
  induction h with
  | start apps client options agenda => exact healthy_start apps client options agenda
  | move _ m ih => exact ih.move m
  | collect _ ih => exact ih.collect

/-- A relation between rows and standings that every move keeps holds in every reachable state. -/
theorem Reachable.holds (hJ : Lasting J)
    (hmove : ∀ s, Healthy s → Holds J app s → ∀ m, Holds J app (Service.move m s))
    (h : Reachable s) : Holds J app s := by
  induction h with
  | start apps client options agenda => exact hJ.fresh app _
  | move hs m ih => exact hmove _ hs.healthy ih m
  | collect _ ih => exact ih

/-- Rows and sessions agree. -/
theorem Reachable.mirrors (h : Reachable s) (app : String) : Holds Mirrors app s :=
  h.holds lasting_mirrors fun _ hs hm m => mirrors_move hs hm m

/-! ## Handlers and sharing -/

/-- A row with a handler has, or will have, an exclusive session. -/
def BoundExclusive (row : Row) (_ : Standing) : Prop :=
  row.callback.isSome = true → row.shared = false

theorem lasting_boundExclusive : Lasting BoundExclusive :=
  ⟨fun _ _ h => absurd h nofun, fun h _ => h, fun _ h => h⟩

theorem BoundExclusive.edit {row row' : Row} {a : Standing} (h : BoundExclusive row a)
    (he : row.SaysLess row') : BoundExclusive row' a := by
  intro hb
  rcases he.callback with hsame | hnone
  · exact he.sharing (h (hsame ▸ hb))
  · rw [hnone] at hb
    cases hb

/-- A course leaves a row with a handler exclusive. -/
theorem Course.boundExclusive (h : Course o app t t')
    (hx : ∀ a, BoundExclusive t.row a) (a : Standing) : BoundExclusive t'.row a := by
  induction h with
  | start => exact hx a
  | edit _ he _ ih => exact BoundExclusive.edit ih he
  | ask _ _ _ ih => exact ih
  | opened _ _ _ _ ih => exact ih
  | reopened _ _ _ _ _ ih => exact ih
  | bound _ _ hshared _ hb _ =>
    rcases bind_cases hb with rfl | rfl
    · exact fun _ => hshared
    · exact fun _ => rfl

/-- So does a cut. -/
theorem Cut.boundExclusive (h : Cut o app t t')
    (hx : ∀ a, BoundExclusive t.row a) (a : Standing) : BoundExclusive t'.row a := by
  cases h with
  | reopening h _ _ _ _ => exact h.boundExclusive hx a
  | binding h _ _ _ => exact h.boundExclusive hx a

/-- A row with a handler has an exclusive session. -/
theorem Reachable.boundExclusive (h : Reachable s) (app : String) : Holds BoundExclusive app s :=
  h.holds lasting_boundExclusive fun _ hs hx m =>
    lasting_boundExclusive.move_of_turns hs hx (fun hc => hc.boundExclusive (fun _ => hx) _)
      (fun hc => hc.boundExclusive (fun _ => hx) _) m

end Service

end AppletGateway
