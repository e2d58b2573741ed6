import AppletGateway.Handler
import AppletGateway.Status

/-!
# Session rows

What the gateway keeps for one app: whether a session with it is open on the co-processor, under
which connection it was opened, its provisioning handle, the handler of its events, and the token
of its instance. A row that holds none of these is vacant.
-/

namespace AppletGateway

/-- The state of one app (`SessionEntry`). -/
structure Row where
  app : String
  /-- The active provisioning handle. -/
  provisioning : Option UInt32 := none
  /-- Whether a session with the app was opened on the co-processor. -/
  loaded : Bool := false
  /-- The link epoch under which it was opened. -/
  openedOn : Nat := 0
  /-- Whether the session is, or will be, a shared one. -/
  shared : Bool := true
  /-- The handler of the app's events. -/
  callback : Option Handler := none
  /-- The instance token issued for the app. -/
  token : Option UInt32 := none
  /-- The process that started the instance. -/
  owner : Option ProcessId := none
  /-- Whether the row goes away once the current update is done. -/
  retiring : Bool := false
  deriving DecidableEq, Inhabited

namespace Row

/-- The row of an app of which nothing is known. -/
def fresh (app : String) : Row := { app := app }

/-- Whether the row holds nothing (`is_vacant`). -/
def isVacant (r : Row) : Bool :=
  !r.loaded && r.provisioning.isNone && r.callback.isNone && r.token.isNone

/-- Whether `h` could be bound: `true` if it is bound already (`check_bind`). -/
def checkBind (r : Row) (h : Handler) : Except Status Bool :=
  match r.callback with
  | none => .ok false
  | some bound => if bound = h then .ok true else .error .alreadyRegistered

/-- The row with `h` bound, which makes its session exclusive (`bind_callback`). Binding a handler
again changes nothing. -/
def bind (h : Handler) (r : Row) : Except Status Row := do
  if ← r.checkBind h then return r
  return { r with callback := some h, shared := false }

/-- The row without a handler (`unbind_callback`). -/
def unbind (r : Row) : Row := { r with callback := none }

/-- The row with a new provisioning handle; only one can be active (`begin_provisioning`). -/
def beginProvisioning (handle : UInt32) (r : Row) : Except Status Row :=
  if r.provisioning.isSome then .error .invalidRequest
  else .ok { r with provisioning := some handle }

/-- The check that `handle` is the active one (`expect_provisioning`). -/
def expectProvisioning (handle : UInt32) (r : Row) : Except Status Unit :=
  if r.provisioning = some handle then .ok () else .error .invalidRequest

/-- The row without a provisioning handle (`end_provisioning`). -/
def endProvisioning (r : Row) : Row := { r with provisioning := none }

/-- The row marked to go away (`retire`). -/
def retire (r : Row) : Row := { r with retiring := true }

theorem isVacant_iff {r : Row} : r.isVacant = true ↔
    r.loaded = false ∧ r.provisioning = none ∧ r.callback = none ∧ r.token = none := by
  simp [isVacant, and_assoc]

end Row

end AppletGateway
