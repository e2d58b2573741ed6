import AppletGateway.Session.Registry

/-!
# Rows and tokens belong together

In a sound registry every row is the one of its own app, no row is about to go away, and a token
stands for an app only as long as the row of that app has it. An update keeps the registry sound if
it keeps the name of the row and leaves the tokens to `Registry.issueToken`.

Results:
* `Registry.row?_settle`: the row of an app after an update of it.
* `Registry.Sound.settle`, `Registry.Occupied.settle`: an update keeps a registry sound, and leaves
  no row that holds nothing.
-/

namespace AppletGateway.Registry

variable {r : Registry} {app : String} {f : Focus}

/-- Rows carry their own names and stay, and every token is the one of the row it stands for. -/
structure Sound (r : Registry) : Prop where
  own_name : ∀ app row, r.row? app = some row → row.app = app
  staying : ∀ app row, r.row? app = some row → row.retiring = false
  held : ∀ id i, r.resolve id = some i → ∃ row, r.row? i.app = some row ∧ row.token = some id

/-- A registry without rows and tokens is sound. -/
theorem sound_of_empty (hrows : r.rows = Table.empty) (hlive : r.tokens.live = Table.empty) :
    r.Sound := by
  have hnone (app : String) : r.row? app = none := by
    rw [row?, hrows, Table.get?_empty]
  refine ⟨fun app row hrow => ?_, fun app row hrow => ?_, fun id i hi => ?_⟩
  · rw [hnone] at hrow
    cases hrow
  · rw [hnone] at hrow
    cases hrow
  · rw [resolve, hlive, Table.get?_empty] at hi
    cases hi

theorem sound_new : Sound {} := sound_of_empty rfl rfl

theorem rowOrFresh_of_row? {row : Row} (h : r.row? app = some row) : r.rowOrFresh app = row := by
  rw [rowOrFresh, h]
  rfl

theorem callback_rowOrFresh (r : Registry) (app : String) :
    (r.rowOrFresh app).callback = r.callbackFor app := by
  unfold rowOrFresh callbackFor
  cases r.row? app <;> rfl

theorem Sound.app_rowOrFresh (h : r.Sound) (app : String) : (r.rowOrFresh app).app = app := by
  unfold rowOrFresh
  cases hr : r.row? app with
  | none => rfl
  | some row => exact h.own_name app row hr

theorem Sound.staying_rowOrFresh (h : r.Sound) (app : String) :
    (r.rowOrFresh app).retiring = false := by
  unfold rowOrFresh
  cases hr : r.row? app with
  | none => rfl
  | some row => exact h.staying app row hr

/-- Without rows no token stands for anything. -/
theorem Sound.resolve_eq_none (h : r.Sound) (hr : r.rows = Table.empty) (id : UInt32) :
    r.resolve id = none := by
  cases hi : r.resolve id with
  | none => rfl
  | some i =>
    obtain ⟨row, hrow, _⟩ := h.held id i hi
    rw [row?, hr] at hrow
    cases hrow

/-! ## Updates -/

/-- The row of an app after an update of it. -/
theorem row?_settle (r : Registry) (app : String) (f : Focus) : (r.settle app f).row? app =
    if f.row.retiring || f.row.isVacant then none else some f.row := by
  unfold settle row?
  split
  · exact Table.get?_erase_self _ _
  · exact Table.get?_set_self _ _ _

/-- The row of any app after an update of one. -/
theorem row?_settle_eq (r : Registry) (app other : String) (f : Focus) :
    (r.settle app f).row? other = if app = other then
      (if f.row.retiring || f.row.isVacant then none else some f.row) else r.row? other := by
  split
  · rename_i h
    subst h
    exact row?_settle r app f
  · rename_i h
    exact get?_settle_of_ne r f h

/-- A row that is there after an update is the updated one, which is to be kept, or was there
before. -/
theorem row?_of_settle {other : String} {row : Row}
    (hrow : (r.settle app f).row? other = some row) :
    (other = app ∧ row = f.row ∧ f.row.retiring = false ∧ f.row.isVacant = false) ∨
      r.row? other = some row := by
  rw [row?_settle_eq] at hrow
  split at hrow
  · rename_i happ
    split at hrow
    · cases hrow
    · rename_i hstay
      have hkept := Bool.or_eq_false_iff.mp (Bool.eq_false_iff.mpr hstay)
      exact .inl ⟨happ.symm, (Option.some.inj hrow).symm, hkept⟩
  · exact .inr hrow

/-- What is found of a row after an update of it. -/
theorem rowOrFresh_settle (r : Registry) (app : String) (f : Focus) :
    (r.settle app f).rowOrFresh app =
      if f.row.retiring || f.row.isVacant then .fresh app else f.row := by
  rw [rowOrFresh, row?_settle]
  split <;> rfl

/-- Dropping a row that is not there changes nothing. -/
theorem settle_missing {row : Row} (hrow : r.row? app = none)
    (hdrop : (row.retiring || row.isVacant) = true) (htok : row.token = none) :
    r.settle app ⟨row, r.tokens⟩ = r := by
  rw [settle, if_pos hdrop, Table.erase_of_get?_eq_none hrow, htok]

/-- An update that leaves the row as it is changes nothing, if it was not to go away. -/
theorem settle_rowOrFresh
    (hstay : ∀ row, r.row? app = some row → (row.retiring || row.isVacant) = false) :
    r.settle app ⟨r.rowOrFresh app, r.tokens⟩ = r := by
  cases hrow : r.row? app with
  | none =>
    rw [rowOrFresh, hrow]
    exact settle_missing hrow rfl rfl
  | some row =>
    rw [rowOrFresh_of_row? hrow, settle, if_neg (Bool.eq_false_iff.mp (hstay row hrow)),
      Table.set_get? hrow]

/-- What an update of the row of an app has to keep for the registry to stay sound: the name of the
row, and that every token of this app is the one of the row. -/
structure Focus.Sound (r : Registry) (app : String) (f : Focus) : Prop where
  own_name : f.row.app = app
  held : ∀ id i, f.tokens.live.get? id = some i →
    if i.app = app then f.row.token = some id
    else ∃ row, r.row? i.app = some row ∧ row.token = some id

theorem Sound.focus (h : r.Sound) (app : String) :
    Focus.Sound r app ⟨r.rowOrFresh app, r.tokens⟩ := by
  refine ⟨h.app_rowOrFresh app, fun id i hi => ?_⟩
  obtain ⟨row, hrow, htok⟩ := h.held id i hi
  split
  · rename_i hi
    subst hi
    show (r.rowOrFresh i.app).token = some id
    rw [rowOrFresh_of_row? hrow]
    exact htok
  · exact ⟨row, hrow, htok⟩

/-- A change of the row that keeps its name and its token. -/
theorem Focus.Sound.withRow (h : Focus.Sound r app f) {row : Row} (happ : row.app = f.row.app)
    (htok : row.token = f.row.token) : Focus.Sound r app { f with row := row } := by
  refine ⟨happ.trans h.own_name, fun id i hi => ?_⟩
  have := h.held id i hi
  rwa [← htok] at this

theorem Focus.Sound.issueToken (h : Focus.Sound r app f) (owner : ProcessId) :
    Focus.Sound r app ((issueToken owner).run f).2 := by
  cases htok : f.row.token with
  | some id =>
    have : ((Registry.issueToken owner).run f).2 = f := by
      simp [Registry.issueToken, StateT.run, htok]
    rw [this]
    exact h
  | none =>
    have : ((Registry.issueToken owner).run f).2 =
        { row := { f.row with token := some f.tokens.next, owner := some owner }
          tokens :=
            { live := f.tokens.live.set f.tokens.next ⟨f.row.app, owner⟩
              next := f.tokens.next + 1 } } := by
      simp [Registry.issueToken, StateT.run, htok]
    rw [this]
    refine ⟨h.own_name, fun id i hi => ?_⟩
    have hi : (f.tokens.live.set f.tokens.next ⟨f.row.app, owner⟩).get? id = some i := hi
    rw [Table.get?_set] at hi
    split at hi
    · -- The new token stands for this app, whatever it stood for before.
      rename_i hid
      obtain rfl := Option.some.inj hi
      rw [if_pos h.own_name]
      exact congrArg some hid
    · have := h.held id i hi
      split at this
      · rw [htok] at this
        cases this
      · rename_i happ
        rw [if_neg happ]
        exact this

/-- What a token stands for after an update: a row that is dropped takes its own along. -/
theorem resolve_settle (r : Registry) (app : String) (f : Focus) (id : UInt32) :
    (r.settle app f).resolve id =
      if (f.row.retiring || f.row.isVacant) = true ∧ f.row.token = some id then none
      else f.tokens.live.get? id := by
  unfold resolve settle
  split
  · rename_i hdrop
    rw [hdrop]
    cases htok : f.row.token with
    | none => simp
    | some own =>
      show (f.tokens.live.erase own).get? id = _
      simp [Table.get?_erase]
  · rename_i hstay
    rw [if_neg fun h => hstay h.1]

/-- A token that resolves after an update did so before; a row that is dropped takes its own
along. -/
theorem live_of_resolve_settle {id : UInt32} {i : Instance}
    (hi : (r.settle app f).resolve id = some i) :
    f.tokens.live.get? id = some i ∧
      ((f.row.retiring || f.row.isVacant) = true → f.row.token ≠ some id) := by
  rw [resolve_settle] at hi
  split at hi
  · cases hi
  · rename_i hkept
    exact ⟨hi, fun hdrop htok => hkept ⟨hdrop, htok⟩⟩

/-- An update keeps a registry sound. -/
theorem Sound.settle (h : r.Sound) (hf : Focus.Sound r app f) : (r.settle app f).Sound := by
  refine ⟨fun other row hrow => ?_, fun other row hrow => ?_, fun id i hi => ?_⟩
  · rcases row?_of_settle hrow with ⟨rfl, rfl, _, _⟩ | hrow
    · exact hf.own_name
    · exact h.own_name other row hrow
  · rcases row?_of_settle hrow with ⟨_, rfl, hstay, _⟩ | hrow
    · exact hstay
    · exact h.staying other row hrow
  · rw [row?_settle_eq]
    obtain ⟨hlive, hdropped⟩ := live_of_resolve_settle hi
    have hheld := hf.held id i hlive
    split at hheld
    · rename_i happ
      rw [if_pos happ.symm]
      split
      · rename_i hdrop
        exact absurd hheld (hdropped hdrop)
      · exact ⟨f.row, rfl, hheld⟩
    · rename_i happ
      rw [if_neg (Ne.symm happ)]
      exact hheld

theorem sound_drain (r : Registry) : (drain.run r).2.Sound := sound_of_empty rfl rfl

/-! ## Rows that hold something -/

/-- Every row holds something. -/
def Occupied (r : Registry) : Prop := ∀ app row, r.row? app = some row → row.isVacant = false

theorem occupied_of_empty (h : r.rows = Table.empty) : Occupied r := by
  intro app row hrow
  rw [row?, h, Table.get?_empty] at hrow
  cases hrow

/-- An update does not leave a vacant row. -/
theorem Occupied.settle (h : Occupied r) (app : String) (f : Focus) :
    Occupied (r.settle app f) := by
  intro other row hrow
  rcases row?_of_settle hrow with ⟨_, rfl, _, hheld⟩ | hrow
  · exact hheld
  · exact h other row hrow

/-- A row that holds nothing is not there. -/
theorem Occupied.eq_fresh (h : Occupied r) (hv : (r.rowOrFresh app).isVacant = true) :
    r.rowOrFresh app = .fresh app := by
  cases hrow : r.row? app with
  | none =>
    rw [rowOrFresh, hrow]
    rfl
  | some row =>
    rw [rowOrFresh_of_row? hrow, h app row hrow] at hv
    cases hv

end AppletGateway.Registry
