import AppletGateway.Session.Row
import AppletGateway.Table

/-!
# The session registry

The one place that says what is open: a row per app, and the instance tokens with the apps and
owners they stand for. An update works on the row of one app, which is made if it is missing; a row
that is vacant or marked to go away afterwards is dropped, and its token with it.

An update is one step, in which the row of the app is looked up, changed, and kept or dropped. No
other update can come by a row that is being dropped; the mark that such a row has (`removed`) is
left out.

Main statements:

* `Registry.get?_updateRow_of_ne`: an update leaves the rows of other apps alone.
* `Registry.updateRow_of_vacant`: an update that leaves a missing row vacant changes no row.
-/

namespace AppletGateway

/-- What an instance token stands for (`InstanceRecord`). -/
structure Instance where
  app : String
  owner : ProcessId
  deriving DecidableEq, Inhabited

/-- The tokens issued and the next one. -/
structure Tokens where
  live : Table UInt32 Instance := Table.empty
  next : UInt32 := 1

/-- The rows of all apps and the instance tokens (`SessionRegistry`). -/
structure Registry where
  rows : Table String Row := Table.empty
  tokens : Tokens := {}

/-- What an update of one app can see and change. -/
structure Registry.Focus where
  row : Row
  tokens : Tokens

namespace Registry

variable {α : Type}

/-- The row of an app, as far as there is one. -/
def row? (r : Registry) (app : String) : Option Row := r.rows.get? app

/-- The row of an app, or a fresh one. -/
def rowOrFresh (r : Registry) (app : String) : Row := (r.row? app).getD (.fresh app)

/-- Keeps an updated row, or drops it if it is vacant or marked to go away (`settle`). -/
def settle (app : String) (f : Focus) (r : Registry) : Registry :=
  if f.row.retiring || f.row.isVacant then
    { rows := r.rows.erase app
      tokens :=
        match f.row.token with
        | some id => { f.tokens with live := f.tokens.live.erase id }
        | none => f.tokens }
  else { rows := r.rows.set app f.row, tokens := f.tokens }

/-- Runs an update on the row of an app, which is made if it is missing (`with_entry`). -/
def updateRow (app : String) (body : StateM Focus α) : StateM Registry α := fun r =>
  let (result, f) := body.run ⟨r.rowOrFresh app, r.tokens⟩
  (result, r.settle app f)

/-- Runs an update on the row of an app, if there is one (`with_existing`). -/
def updateExisting (app : String) (body : StateM Focus α) : StateM Registry (Option α) := fun r =>
  match r.row? app with
  | none => (none, r)
  | some _ => (updateRow app (some <$> body)).run r

/-- Changes the row of an app in a way that can fail. -/
def changeRow (change : Row → Except Status Row) : StateM Focus (Except Status Unit) := fun f =>
  match change f.row with
  | .ok row => (.ok (), { f with row := row })
  | .error s => (.error s, f)

/-- The token of the row at hand: the one it has, or a new one owned by `owner`
(`issue_instance`). -/
def issueToken (owner : ProcessId) : StateM Focus UInt32 := fun f =>
  match f.row.token with
  | some id => (id, f)
  | none =>
    let id := f.tokens.next
    (id,
      { row := { f.row with token := some id, owner := some owner }
        tokens :=
          { live := f.tokens.live.set id ⟨f.row.app, owner⟩
            next := f.tokens.next + 1 } })

/-! ## Operations on one app -/

/-- The row of an app, made if it is missing; a vacant one is not kept (`get_or_create`). -/
def getOrCreate (app : String) : StateM Registry Row := updateRow app do return (← get).row

/-- Binds a handler to an app (`bind_callback`). -/
def bind (app : String) (h : Handler) : StateM Registry (Except Status Unit) :=
  updateRow app (changeRow (Row.bind h))

/-- Clears the handler of an app; its provisioning is left alone (`unbind_callback`). -/
def unbind (app : String) : StateM Registry Unit := do
  let _ ← updateExisting app (modify fun f => { f with row := f.row.unbind })

/-- Drops everything held for an app and says whether there was a row (`remove`). -/
def remove (app : String) : StateM Registry Bool := do
  return (← updateExisting app (modify fun f => { f with row := f.row.retire })).isSome

/-- Records a provisioning handle for an app (`set_provisioning`). -/
def setProvisioning (app : String) (handle : UInt32) : StateM Registry (Except Status Unit) :=
  updateRow app (changeRow (Row.beginProvisioning handle))

/-- Clears the provisioning handle of an app and gives it (`clear_provisioning`). -/
def clearProvisioning (app : String) : StateM Registry (Option UInt32) := do
  return (← updateExisting app do
    let f ← get
    set { f with row := f.row.endProvisioning }
    return f.row.provisioning).join

/-- The handler bound to an app (`callback_for`). -/
def callbackFor (r : Registry) (app : String) : Option Handler := (r.row? app).bind Row.callback

/-- What a token stands for (`resolve_instance`). -/
def resolve (r : Registry) (id : UInt32) : Option Instance := r.tokens.live.get? id

/-- Drops every row and every token, and gives the rows (`drain`). -/
def drain : StateM Registry (List Row) := fun r =>
  (r.rows.values, { rows := Table.empty, tokens := { r.tokens with live := Table.empty } })

/-! ## Views -/

/-- The number of rows (`len`). -/
def size (r : Registry) : Nat := r.rows.size

/-- How many rows have a handler as their callback. -/
def holders (r : Registry) (h : Handler) : Nat :=
  r.rows.values.countP fun row => row.callback = some h

/-- Whether any row has a handler as its callback. -/
def holds (r : Registry) (h : Handler) : Bool := r.holders h ≠ 0

/-! ## What an update leaves alone -/

theorem get?_settle_of_ne (r : Registry) (f : Focus) {app other : String} (h : app ≠ other) :
    (r.settle app f).row? other = r.row? other := by
  unfold settle row?
  split
  · exact Table.get?_erase_of_ne _ h
  · exact Table.get?_set_of_ne _ h _

/-- An update leaves the rows of other apps alone. -/
theorem get?_updateRow_of_ne (r : Registry) {app other : String} (h : app ≠ other)
    (body : StateM Focus α) : ((updateRow app body).run r).2.row? other = r.row? other :=
  get?_settle_of_ne r _ h

/-- A missing row that an update leaves vacant is not there afterwards either. -/
theorem updateRow_of_vacant {r : Registry} {app : String} (h : r.row? app = none)
    {body : StateM Focus α} (hv : (body.run ⟨r.rowOrFresh app, r.tokens⟩).2.row.isVacant) :
    ((updateRow app body).run r).2.rows = r.rows := by
  have hrow : ((updateRow app body).run r).2 =
      r.settle app (body.run ⟨r.rowOrFresh app, r.tokens⟩).2 := rfl
  rw [hrow, settle, hv, Bool.or_true, if_pos rfl]
  exact Table.erase_of_get?_eq_none h

end Registry

end AppletGateway
