import AppletGateway.Proofs.Tokens

/-!
# Runs of the registry

Whatever is asked of the registry works on the row of one app, which is made for it if need be, or
drops everything. An update of a row is a list of edits in any order, and one that leaves the row
vacant or marked to go away takes it out of the table together with its token.

Results:
* `Registry.Call.updated`: what a call does is one step of a registry.
* `Registry.faithful_called`: a registry is faithful after any calls that issue no more tokens than
  there are.
* `Registry.rows_and_tokens_agree`: what is in the table, and that the index of the tokens says the
  same as the rows.
-/

namespace AppletGateway.Registry

variable {r : Registry} {app : String} {f : Focus} {n : Nat}

/-! ## Edits -/

/-- A step of an update: what the holder of a row can do with it. -/
inductive Edit
  | beginProvisioning (handle : UInt32)
  | expectProvisioning (handle : UInt32)
  | endProvisioning
  | load (flag : Bool) (epoch : Nat)
  | share (flag : Bool)
  | checkBind (h : Handler)
  | bind (h : Handler)
  | unbind
  | issue (owner : ProcessId)
  | retire
  deriving DecidableEq

/-- The row and the tokens after an edit; one that fails, and a mere check, change nothing. -/
def Edit.apply : Edit → Focus → Focus
  | beginProvisioning handle, f => ((changeRow (Row.beginProvisioning handle)).run f).2
  | expectProvisioning _, f | checkBind _, f => f
  | endProvisioning, f => { f with row := f.row.endProvisioning }
  | load flag epoch, f => { f with row := { f.row with loaded := flag, openedOn := epoch } }
  | share flag, f => { f with row := { f.row with shared := flag } }
  | bind h, f => ((changeRow (Row.bind h)).run f).2
  | unbind, f => { f with row := f.row.unbind }
  | issue owner, f => ((issueToken owner).run f).2
  | retire, f => { f with row := f.row.retire }

/-- The row and the tokens after some edits, the first of them first. -/
def edited (es : List Edit) (f : Focus) : Focus := es.foldl (fun f e => e.apply f) f

/-- A change of the row that can fail keeps what it keeps if it succeeds. -/
theorem issued_changeRow {change : Row → Except Status Row}
    (h : ∀ row, change f.row = .ok row →
      row.app = f.row.app ∧ row.token = f.row.token ∧ row.owner = f.row.owner) :
    ((changeRow change).run f).2.row.app = f.row.app ∧
      Issued app f ((changeRow change).run f).2 := by
  cases hc : change f.row with
  | error e =>
    simp only [changeRow, StateT.run, hc]
    exact ⟨trivial, .same rfl rfl rfl⟩
  | ok row =>
    obtain ⟨happ, htok, howner⟩ := h row hc
    simp only [changeRow, StateT.run, hc]
    exact ⟨happ, .same htok howner rfl⟩

theorem Edit.issued (e : Edit) (hname : f.row.app = app) :
    (e.apply f).row.app = app ∧ Issued app f (e.apply f) := by
  have hsame {row : Row} (happ : row.app = f.row.app) (htok : row.token = f.row.token)
      (howner : row.owner = f.row.owner) :
      row.app = app ∧ Issued app f { f with row := row } :=
    ⟨happ.trans hname, .same htok howner rfl⟩
  cases e with
  | beginProvisioning handle =>
    rw [← hname]
    refine issued_changeRow fun row hrow => ?_
    unfold Row.beginProvisioning at hrow
    split at hrow
    · cases hrow
    · obtain rfl := Except.ok.inj hrow
      exact ⟨rfl, rfl, rfl⟩
  | bind h =>
    rw [← hname]
    refine issued_changeRow fun row hrow => ?_
    unfold Row.bind at hrow
    cases hc : f.row.checkBind h with
    | error e =>
      rw [hc] at hrow
      cases hrow
    | ok bound =>
      rw [hc] at hrow
      cases bound <;> obtain rfl := Except.ok.inj hrow <;> exact ⟨rfl, rfl, rfl⟩
  | issue owner =>
    refine ⟨?_, issued_issueToken owner hname⟩
    show ((issueToken owner).run f).2.row.app = app
    cases htok : f.row.token <;> simpa [issueToken, StateT.run, htok] using hname
  | expectProvisioning _ | checkBind _ => exact hsame rfl rfl rfl
  | endProvisioning | load _ _ | share _ | unbind | retire => exact hsame rfl rfl rfl

/-- Edits in any order issue one token at most. -/
theorem issued_edited (es : List Edit) (hname : f.row.app = app) :
    (edited es f).row.app = app ∧ Issued app f (edited es f) := by
  induction es generalizing f with
  | nil => exact ⟨hname, .same rfl rfl rfl⟩
  | cons e es ih =>
    obtain ⟨hname', hfirst⟩ := e.issued hname
    obtain ⟨hlast, hrest⟩ := ih hname'
    exact ⟨hlast, hfirst.trans hrest⟩

/-! ## Calls -/

/-- What can be asked of the registry. -/
inductive Call
  | getOrCreate (app : String)
  | snapshot (app : String)
  | bind (app : String) (h : Handler)
  | unbind (app : String)
  | remove (app : String)
  | setProvisioning (app : String) (handle : UInt32)
  | clearProvisioning (app : String)
  | callbackFor (app : String)
  | resolve (id : UInt32)
  | drain
  | withEntry (app : String) (es : List Edit)
  | withExisting (app : String) (es : List Edit)
  deriving DecidableEq

/-- A look at the row of an app, if there is one. It is an update that leaves the row as it is. -/
def look {α : Type} (app : String) (view : Row → α) : StateM Registry (Option α) :=
  updateExisting app do return view (← get).row

/-- The registry after a call. -/
def Call.apply : Call → Registry → Registry
  | getOrCreate app, r => ((Registry.getOrCreate app).run r).2
  | snapshot app, r => ((look app id).run r).2
  | bind app h, r => ((Registry.bind app h).run r).2
  | unbind app, r => ((Registry.unbind app).run r).2
  | remove app, r => ((Registry.remove app).run r).2
  | setProvisioning app handle, r => ((Registry.setProvisioning app handle).run r).2
  | clearProvisioning app, r => ((Registry.clearProvisioning app).run r).2
  | callbackFor app, r => ((look app Row.callback).run r).2
  | resolve _, r => r
  | drain, r => (Registry.drain.run r).2
  | withEntry app es, r => ((updateRow app (modify (edited es))).run r).2
  | withExisting app es, r => ((updateExisting app (modify (edited es))).run r).2

/-- The row of an app after edits, taken over into the registry. -/
theorem updated_edited (h : Faithful n r) (app : String) (es : List Edit) :
    Updated r (r.settle app (edited es ⟨r.rowOrFresh app, r.tokens⟩)) := by
  obtain ⟨hname, hissued⟩ :=
    issued_edited es (show (Focus.mk (r.rowOrFresh app) r.tokens).row.app = app from
      h.app_rowOrFresh app)
  exact .row hname hissued

/-- An update of a row that has to be there. -/
theorem run_updateExisting {α : Type} (r : Registry) (app : String) (body : StateM Focus α) :
    (updateExisting app body).run r =
      if (r.row? app).isSome then
        (some (body.run ⟨r.rowOrFresh app, r.tokens⟩).1,
          r.settle app (body.run ⟨r.rowOrFresh app, r.tokens⟩).2)
      else (none, r) := by
  simp only [updateExisting, StateT.run]
  cases r.row? app with
  | none => rfl
  | some row => rfl

/-- Edits of a row that has to be there, taken over into the registry. -/
theorem updated_existing (h : Faithful n r) (app : String) (es : List Edit) {α : Type}
    (body : StateM Focus α) (hbody : ∀ f, (body.run f).2 = edited es f) :
    Updated r ((updateExisting app body).run r).2 := by
  rw [run_updateExisting]
  split
  · rw [hbody]
    exact updated_edited h app es
  · exact .same

/-- What a call does is one step of a registry. -/
theorem Call.updated (h : Faithful n r) (c : Call) : Updated r (c.apply r) := by
  cases c with
  | getOrCreate app => exact updated_edited h app []
  | snapshot app => exact updated_existing h app [] _ fun _ => rfl
  | bind app handler => exact updated_edited h app [.bind handler]
  | unbind app => exact updated_existing h app [.unbind] _ fun _ => rfl
  | remove app => exact updated_existing h app [.retire] _ fun _ => rfl
  | setProvisioning app handle => exact updated_edited h app [.beginProvisioning handle]
  | clearProvisioning app =>
    exact updated_existing h app [.endProvisioning]
      (do
        let f ← get
        set { f with row := f.row.endProvisioning }
        return f.row.provisioning)
      fun _ => rfl
  | callbackFor app => exact updated_existing h app [] _ fun _ => rfl
  | resolve id => exact .same
  | drain => exact .drained
  | withEntry app es => exact updated_edited h app es
  | withExisting app es => exact updated_existing h app es _ fun _ => rfl

/-- A look shows what is in the table and changes nothing. -/
theorem Faithful.run_look {α : Type} (h : Faithful n r) (app : String) (view : Row → α) :
    (look app view).run r = ((r.row? app).map view, r) := by
  rw [look, run_updateExisting]
  cases hrow : r.row? app with
  | none => rfl
  | some row =>
    have hfocus : (do return view (← get).row : StateM Focus α).run
        ⟨r.rowOrFresh app, r.tokens⟩ = (view row, ⟨r.rowOrFresh app, r.tokens⟩) := by
      rw [rowOrFresh_of_row? hrow]
      rfl
    rw [hfocus, h.settle_rowOrFresh]
    rfl

/-- The handler of an app is the one that a look at its row shows. -/
theorem Faithful.join_look_callback (h : Faithful n r) (app : String) :
    ((look app Row.callback).run r).1.join = r.callbackFor app := by
  rw [h.run_look, callbackFor]
  cases r.row? app <;> rfl

/-- Asking for a row that is not there does not make one. -/
theorem Faithful.run_getOrCreate (h : Faithful n r) (app : String) :
    (getOrCreate app).run r = (r.rowOrFresh app, r) := by
  have hrun : (getOrCreate app).run r =
      (r.rowOrFresh app, r.settle app ⟨r.rowOrFresh app, r.tokens⟩) := rfl
  rw [hrun, h.settle_rowOrFresh]

/-! ## Runs -/

/-- The registry after some calls, the first of them first. -/
def called (cs : List Call) (r : Registry) : Registry := cs.foldl (fun r c => c.apply r) r

/-- The number of tokens issued by some calls. -/
def issuedBy : List Call → Registry → Nat
  | [], _ => 0
  | c :: cs, r => r.issuedBetween (c.apply r) + issuedBy cs (c.apply r)

/-- A registry stays faithful through any calls as long as there are tokens. -/
theorem faithful_called {cs : List Call} (h : Faithful n r)
    (hlimit : n + issuedBy cs r < UInt32.size) :
    Faithful (n + issuedBy cs r) (called cs r) := by
  induction cs generalizing n r with
  | nil => exact h
  | cons c cs ih =>
    have hsum : n + issuedBy (c :: cs) r =
        n + r.issuedBetween (c.apply r) + issuedBy cs (c.apply r) := by
      simp only [issuedBy]
      omega
    rw [hsum] at hlimit ⊢
    exact ih (h.updated (c.updated h) (by omega)) hlimit

/-- The rows in the table are what they should be, and the index of the tokens says the same as
they do. -/
structure Consistent (r : Registry) : Prop where
  own_name : ∀ app row, r.row? app = some row → row.app = app
  staying : ∀ app row, r.row? app = some row → row.retiring = false
  occupied : ∀ app row, r.row? app = some row →
    row.loaded = true ∨ row.provisioning.isSome ∨ row.callback.isSome ∨ row.token.isSome
  /-- A row that an update leaves vacant or marked to go away is in the table no more, and its token
  stands for nothing. -/
  cleared : ∀ app es,
    (edited es ⟨r.rowOrFresh app, r.tokens⟩).row.retiring = true ∨
      (edited es ⟨r.rowOrFresh app, r.tokens⟩).row.isVacant = true →
    ((Call.withEntry app es).apply r).row? app = none ∧
      ∀ id owner, ((Call.withEntry app es).apply r).resolve id ≠ some ⟨app, owner⟩
  resolves : ∀ id app owner, r.resolve id = some ⟨app, owner⟩ ↔
    ∃ row, r.row? app = some row ∧ row.token = some id ∧ row.owner = some owner
  nonzero : ∀ app row id, r.row? app = some row → row.token = some id → id ≠ 0
  distinct : ∀ app app' row row' id, r.row? app = some row → r.row? app' = some row' →
    row.token = some id → row'.token = some id → app = app'

/-- A row that is not vacant holds something. -/
theorem holds_of_isVacant_eq_false {row : Row} (h : row.isVacant = false) :
    row.loaded = true ∨ row.provisioning.isSome ∨ row.callback.isSome ∨ row.token.isSome := by
  unfold Row.isVacant at h
  cases hl : row.loaded <;> cases hp : row.provisioning <;> cases hc : row.callback <;>
    cases ht : row.token <;> simp_all

theorem Faithful.resolve_of_token {row : Row} {id : UInt32} (h : Faithful n r)
    (hrow : r.row? app = some row) (htok : row.token = some id) :
    ∃ owner, r.resolve id = some ⟨app, owner⟩ := by
  obtain ⟨owner, howner⟩ := h.owned app row id hrow htok
  exact ⟨owner, (h.resolves id app owner).mpr ⟨row, hrow, htok, howner⟩⟩

/-- In a row that is dropped the token goes with it. -/
theorem Faithful.cleared (h : Faithful n r)
    (hf : Issued app ⟨r.rowOrFresh app, r.tokens⟩ f)
    (hdrop : (f.row.retiring || f.row.isVacant) = true) : (r.settle app f).row? app = none ∧
      ∀ id owner, (r.settle app f).resolve id ≠ some ⟨app, owner⟩ := by
  refine ⟨by rw [row?_settle, if_pos hdrop], fun id owner hi => ?_⟩
  obtain ⟨hlive, hgone⟩ := live_of_resolve_settle hi
  exact hgone hdrop ((h.live_iff hf owner).mp hlive).1

theorem Faithful.consistent (h : Faithful n r) : Consistent r where
  own_name := h.own_name
  staying := h.staying
  occupied app row hrow := holds_of_isVacant_eq_false (h.occupied app row hrow)
  cleared app es hdrop := by
    refine h.cleared (issued_edited es (h.app_rowOrFresh app)).2 ?_
    rwa [Bool.or_eq_true]
  resolves := h.resolves
  nonzero app row id hrow htok := by
    obtain ⟨owner, hid⟩ := h.resolve_of_token hrow htok
    have hpos := (h.numbered id _ hid).1
    rintro rfl
    exact absurd hpos (Nat.lt_irrefl 0)
  distinct app app' row row' id hrow hrow' htok htok' := by
    obtain ⟨owner, hid⟩ := h.resolve_of_token hrow htok
    obtain ⟨owner', hid'⟩ := h.resolve_of_token hrow' htok'
    rw [hid] at hid'
    exact congrArg Instance.app (Option.some.inj hid')

/-- After any calls, made of a new registry, that issue at most `2 ^ 32 - 1` tokens: every row in
the table is stored under its own name, holds something and is not about to go away; one that is
cleared is gone with its token; and a token stands for an app and an owner exactly if the row of
this app has both. -/
theorem rows_and_tokens_agree (calls : List Call) (hlimit : issuedBy calls {} < UInt32.size) :
    Consistent (called calls {}) := by
  refine Faithful.consistent (faithful_called faithful_new ?_)
  rwa [Nat.zero_add]

/-- Two apps with an instance each; the first is removed and gets another one. -/
def restarted : List Call :=
  [.withEntry "clock" [.load true 1, .share false, .issue .self],
    .withEntry "radio" [.issue (.peer 7)], .remove "clock", .withEntry "clock" [.issue (.peer 9)]]

/-- The third of three tokens stands for the second instance of the first app. -/
theorem consistent_restarted : issuedBy restarted {} = 3 ∧
    (called restarted {}).resolve 3 = some ⟨"clock", .peer 9⟩ ∧
    Consistent (called restarted {}) :=
  ⟨by decide +kernel, by decide +kernel, rows_and_tokens_agree restarted (by decide +kernel)⟩

end AppletGateway.Registry
