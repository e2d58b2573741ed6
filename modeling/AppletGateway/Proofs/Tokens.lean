import AppletGateway.Proofs.Rows

/-!
# Instance tokens

While the row of an app is updated, nothing happens to the tokens, or the row gets its first one,
which is the next of the counter and stands for the app and an owner. The counter has 32 bits: it
reaches zero with the last of the `2 ^ 32 - 1` tokens that are not zero. A registry that has issued
no more of them is a faithful one: its rows are stored under their own names and hold something, and
a token stands for an app and an owner exactly if the row of this app has both.

Results:
* `Registry.resolve_settle_of_ne`: an update of one app leaves the tokens of other apps alone.
* `Registry.Faithful.updated`: a step keeps a registry faithful as long as there are tokens.
* `Registry.Faithful.resolve_eq_none`: a token that was issued and stands for nothing does not come
  to stand for anything.
-/

namespace AppletGateway.Registry

variable {r : Registry} {app other : String} {f f' f'' : Focus} {n : Nat} {id : UInt32}

/-! ## What is issued -/

/-- What happens to the tokens while the row of an app is updated: nothing, or the row gets its
first. -/
inductive Issued (app : String) (f : Focus) : Focus → Prop
  | same {f' : Focus} (hrow : f'.row.token = f.row.token) (howner : f'.row.owner = f.row.owner)
    (htokens : f'.tokens = f.tokens) : Issued app f f'
  | first {f' : Focus} (owner : ProcessId) (hnone : f.row.token = none)
    (hrow : f'.row.token = some f.tokens.next) (howner : f'.row.owner = some owner)
    (htokens : f'.tokens =
      ⟨f.tokens.live.set f.tokens.next ⟨app, owner⟩, f.tokens.next + 1⟩) : Issued app f f'

theorem Issued.trans (h : Issued app f f') (h' : Issued app f' f'') : Issued app f f'' := by
  cases h' with
  | same hrow howner htokens =>
    cases h with
    | same hrow₀ howner₀ htokens₀ =>
      exact .same (hrow.trans hrow₀) (howner.trans howner₀) (htokens.trans htokens₀)
    | first owner hnone hrow₀ howner₀ htokens₀ =>
      exact .first owner hnone (hrow.trans hrow₀) (howner.trans howner₀) (htokens.trans htokens₀)
  | first owner hnone hrow howner htokens =>
    cases h with
    | same hrow₀ _ htokens₀ =>
      rw [hrow₀] at hnone
      rw [htokens₀] at hrow htokens
      exact .first owner hnone hrow howner htokens
    | first _ _ hrow₀ _ _ => cases hrow₀.symm.trans hnone

theorem issued_issueToken (owner : ProcessId) (h : f.row.app = app) :
    Issued app f ((issueToken owner).run f).2 := by
  cases htok : f.row.token with
  | some id =>
    simp only [issueToken, StateT.run, htok]
    exact .same rfl rfl rfl
  | none =>
    simp only [issueToken, StateT.run, htok, h]
    exact .first owner htok rfl rfl rfl

/-- The counter does not stand still. -/
theorem counter_succ_ne (a : UInt32) : a + 1 ≠ a := by
  intro h
  have hone : (1 : UInt32) = 0 := by
    rwa [UInt32.add_eq_left] at h
  cases hone

theorem next_settle (r : Registry) (app : String) (f : Focus) :
    (r.settle app f).tokens.next = f.tokens.next := by
  unfold settle
  split
  · cases f.row.token <;> rfl
  · rfl

/-- An update of one app leaves the tokens of other apps alone, if the token of its row stands for
this app and one that it issues stood for nothing. -/
theorem resolve_settle_of_ne (hf : Issued app ⟨r.rowOrFresh app, r.tokens⟩ f)
    (hown : ∀ id, (r.rowOrFresh app).token = some id → ∃ owner, r.resolve id = some ⟨app, owner⟩)
    (hnew : f.tokens.next ≠ r.tokens.next → r.resolve r.tokens.next = none) (hne : app ≠ other)
    (id : UInt32) (owner : ProcessId) : (r.settle app f).resolve id = some ⟨other, owner⟩ ↔
      r.resolve id = some ⟨other, owner⟩ := by
  rw [resolve_settle]
  cases hf with
  | same hrow _ htokens =>
    rw [hrow, htokens]
    split
    · rename_i hdrop
      obtain ⟨owner', hid⟩ := hown id hdrop.2
      refine iff_of_false nofun fun hi => ?_
      rw [hid] at hi
      exact hne (congrArg Instance.app (Option.some.inj hi))
    · exact Iff.rfl
  | first owner' _ hrow _ htokens =>
    rw [htokens] at hnew
    have hfresh : r.resolve r.tokens.next = none := hnew (counter_succ_ne _)
    rw [hrow, htokens, Table.get?_set]
    by_cases hid : r.tokens.next = id
    · subst hid
      refine iff_of_false (fun hi => ?_) (by rw [hfresh]; nofun)
      rw [if_pos rfl] at hi
      split at hi
      · cases hi
      · exact hne (congrArg Instance.app (Option.some.inj hi))
    · rw [if_neg hid, if_neg fun hdrop => hid (Option.some.inj hdrop.2)]
      exact Iff.rfl

/-! ## Faithful registries -/

/-- The number of tokens issued in one update: the counter moves exactly if the row gets its
first. -/
def issuedBetween (r r' : Registry) : Nat := if r'.tokens.next = r.tokens.next then 0 else 1

/-- The state of a registry that has issued `n` tokens, none of them twice. -/
structure Faithful (n : Nat) (r : Registry) : Prop where
  own_name : ∀ app row, r.row? app = some row → row.app = app
  staying : ∀ app row, r.row? app = some row → row.retiring = false
  occupied : ∀ app row, r.row? app = some row → row.isVacant = false
  owned : ∀ app row id, r.row? app = some row → row.token = some id →
    ∃ owner, row.owner = some owner
  counter : r.tokens.next = UInt32.ofNat (n + 1)
  numbered : ∀ id i, r.resolve id = some i → 0 < id.toNat ∧ id.toNat ≤ n
  resolves : ∀ id app owner, r.resolve id = some ⟨app, owner⟩ ↔
    ∃ row, r.row? app = some row ∧ row.token = some id ∧ row.owner = some owner

theorem faithful_of_empty (hrows : r.rows = Table.empty) (hlive : r.tokens.live = Table.empty)
    (hnext : r.tokens.next = UInt32.ofNat (n + 1)) : Faithful n r := by
  have hrow (app : String) (row : Row) : r.row? app ≠ some row := by
    rw [row?, hrows, Table.get?_empty]
    exact (Option.some_ne_none row).symm
  have hid (id : UInt32) (i : Instance) : r.resolve id ≠ some i := by
    rw [resolve, hlive, Table.get?_empty]
    exact (Option.some_ne_none i).symm
  exact
    { own_name := fun app row h => absurd h (hrow app row)
      staying := fun app row h => absurd h (hrow app row)
      occupied := fun app row h => absurd h (hrow app row)
      owned := fun app row _ h => absurd h (hrow app row)
      counter := hnext
      numbered := fun id i h => absurd h (hid id i)
      resolves := fun id app owner => iff_of_false (hid id ⟨app, owner⟩)
        fun h => h.elim fun row h => hrow app row h.1 }

theorem faithful_new : Faithful 0 {} := faithful_of_empty rfl rfl rfl

/-- Dropping everything does not bring tokens back. -/
theorem Faithful.drained (h : Faithful n r) : Faithful n (drain.run r).2 :=
  faithful_of_empty rfl rfl h.counter

/-- Every token of a faithful registry is the one of the row it stands for. -/
theorem Faithful.sound (h : Faithful n r) : r.Sound where
  own_name := h.own_name
  staying := h.staying
  held id i hi := by
    obtain ⟨row, hrow, htok, _⟩ := (h.resolves id i.app i.owner).mp hi
    exact ⟨row, hrow, htok⟩

theorem Faithful.app_rowOrFresh (h : Faithful n r) (app : String) :
    (r.rowOrFresh app).app = app := h.sound.app_rowOrFresh app

/-- An update that leaves the row as it is changes nothing. -/
theorem Faithful.settle_rowOrFresh (h : Faithful n r) (app : String) :
    r.settle app ⟨r.rowOrFresh app, r.tokens⟩ = r := by
  refine Registry.settle_rowOrFresh fun row hrow => ?_
  rw [h.staying app row hrow, h.occupied app row hrow]
  rfl

/-- The counter shows the number of the token to come, unless it has started over. -/
theorem Faithful.toNat_next (h : Faithful n r) (hlimit : n + 1 < UInt32.size) :
    r.tokens.next.toNat = n + 1 := by
  rw [h.counter, UInt32.toNat_ofNat_of_lt' hlimit]

/-- The token that an update of an app begins with, and its owner, are those that it stands for. -/
theorem Faithful.resolves_rowOrFresh (h : Faithful n r) (owner : ProcessId) :
    r.resolve id = some ⟨app, owner⟩ ↔
      (r.rowOrFresh app).token = some id ∧ (r.rowOrFresh app).owner = some owner := by
  rw [h.resolves]
  cases hrow : r.row? app with
  | none =>
    rw [rowOrFresh, hrow]
    constructor
    · rintro ⟨_, hsome, _⟩
      cases hsome
    · rintro ⟨hsome, _⟩
      cases hsome
  | some row =>
    rw [rowOrFresh_of_row? hrow]
    constructor
    · rintro ⟨_, hsame, hheld⟩
      exact Option.some.inj hsame ▸ hheld
    · exact fun hheld => ⟨row, rfl, hheld⟩

theorem Faithful.owned_rowOrFresh (h : Faithful n r) (htok : (r.rowOrFresh app).token = some id) :
    ∃ owner, (r.rowOrFresh app).owner = some owner := by
  cases hrow : r.row? app with
  | none =>
    rw [rowOrFresh, hrow] at htok
    cases htok
  | some row =>
    rw [rowOrFresh_of_row? hrow] at htok ⊢
    exact h.owned app row id hrow htok

section Updates

variable (h : Faithful n r) (hf : Issued app ⟨r.rowOrFresh app, r.tokens⟩ f)
  (hlimit : n + r.issuedBetween (r.settle app f) < UInt32.size)

include hf in
/-- How many tokens an update issues, by what has happened to the tokens. -/
theorem Issued.issuedBetween_settle :
    (f.tokens.next = r.tokens.next ∧ r.issuedBetween (r.settle app f) = 0) ∨
      (f.tokens.next = r.tokens.next + 1 ∧ r.issuedBetween (r.settle app f) = 1) := by
  unfold issuedBetween
  rw [next_settle]
  cases hf with
  | same _ _ htokens =>
    rw [htokens]
    exact .inl ⟨rfl, if_pos rfl⟩
  | first owner _ _ _ htokens =>
    rw [htokens]
    exact .inr ⟨rfl, if_neg (counter_succ_ne _)⟩

include h hf hlimit in
/-- A token that stands for something in an update did so before, or it is the one after those
issued so far. -/
theorem Faithful.live_cases {i : Instance} (hi : f.tokens.live.get? id = some i) :
    r.resolve id = some i ∨ (id.toNat = n + 1 ∧ r.issuedBetween (r.settle app f) = 1) := by
  have hcount := hf.issuedBetween_settle
  cases hf with
  | same _ _ htokens =>
    rw [htokens] at hi
    exact .inl hi
  | first owner _ _ _ htokens =>
    have hone : r.issuedBetween (r.settle app f) = 1 := by
      refine hcount.elim (fun hzero => ?_) And.right
      rw [htokens] at hzero
      exact absurd hzero.1 (counter_succ_ne _)
    rw [htokens, Table.get?_set] at hi
    split at hi
    · rename_i hid
      rw [hone] at hlimit
      exact .inr ⟨hid ▸ h.toNat_next hlimit, hone⟩
    · exact .inl hi

include h hf in
/-- Within an update a token stands for the app and an owner exactly if the row at hand has
both. -/
theorem Faithful.live_iff (owner : ProcessId) : f.tokens.live.get? id = some ⟨app, owner⟩ ↔
    f.row.token = some id ∧ f.row.owner = some owner := by
  have hbefore : r.resolve id = some ⟨app, owner⟩ ↔
      (r.rowOrFresh app).token = some id ∧ (r.rowOrFresh app).owner = some owner :=
    h.resolves_rowOrFresh owner
  cases hf with
  | same hrow howner htokens =>
    rw [htokens, hrow, howner]
    exact hbefore
  | first owner' hnone hrow howner htokens =>
    rw [htokens, hrow, howner, Table.get?_set]
    split
    · rename_i hid
      subst hid
      simp
    · rename_i hid
      refine iff_of_false (fun hi => ?_) fun hi => hid (Option.some.inj hi.1)
      exact nomatch hnone.symm.trans (hbefore.mp hi).1

include h hf hlimit in
/-- An update keeps a registry faithful as long as there are tokens. -/
theorem Faithful.settle (hname : f.row.app = app) :
    Faithful (n + r.issuedBetween (r.settle app f)) (r.settle app f) := by
  refine
    { own_name := fun other row hrow => ?_, staying := fun other row hrow => ?_,
      occupied := fun other row hrow => ?_, owned := fun other row id hrow htok => ?_,
      counter := ?_, numbered := fun id i hi => ?_, resolves := fun id other owner => ?_ }
  · rcases row?_of_settle hrow with ⟨rfl, rfl, _, _⟩ | hrow
    · exact hname
    · exact h.own_name other row hrow
  · rcases row?_of_settle hrow with ⟨_, rfl, hstay, _⟩ | hrow
    · exact hstay
    · exact h.staying other row hrow
  · exact Occupied.settle h.occupied app f other row hrow
  · rcases row?_of_settle hrow with ⟨rfl, rfl, _, _⟩ | hrow
    · cases hf with
      | same hsame howner _ =>
        rw [howner]
        exact h.owned_rowOrFresh (hsame.symm.trans htok)
      | first owner _ _ howner _ => exact ⟨owner, howner⟩
    · exact h.owned other row id hrow htok
  · rw [next_settle]
    rcases hf.issuedBetween_settle with ⟨hnext, hcount⟩ | ⟨hnext, hcount⟩
    · rw [hnext, hcount]
      exact h.counter
    · rw [hnext, hcount, h.counter, UInt32.ofNat_add (n + 1) 1]
      rfl
  · rcases h.live_cases hf hlimit (live_of_resolve_settle hi).1 with hold | ⟨hnew, hone⟩
    · have := h.numbered id i hold
      omega
    · omega
  · by_cases hne : app = other
    · subst hne
      rw [row?_settle, resolve_settle]
      split
      · rename_i hdrop
        rw [if_pos hdrop.1]
        exact iff_of_false (fun hsome => nomatch hsome) (fun ⟨_, hsome, _⟩ => nomatch hsome)
      · rename_i hkept
        rw [h.live_iff hf owner]
        split
        · rename_i hdrop
          exact iff_of_false (fun hheld => hkept ⟨hdrop, hheld.1⟩)
            (fun ⟨_, hsome, _⟩ => nomatch hsome)
        · exact ⟨fun hheld => ⟨f.row, rfl, hheld⟩,
            fun ⟨_, hsame, hheld⟩ => Option.some.inj hsame ▸ hheld⟩
    · rw [get?_settle_of_ne r f hne, ← h.resolves]
      refine resolve_settle_of_ne hf (fun id htok => ?_) (fun hmoved => ?_) hne id owner
      · obtain ⟨owner, howner⟩ := h.owned_rowOrFresh htok
        exact ⟨owner, (h.resolves_rowOrFresh owner).mpr ⟨htok, howner⟩⟩
      · -- The counter has moved, so the token was still to be issued.
        rcases hf.issuedBetween_settle with ⟨hnext, _⟩ | ⟨_, hone⟩
        · exact absurd hnext hmoved
        · refine Option.eq_none_iff_forall_ne_some.mpr fun i hi => ?_
          have hbelow := (h.numbered _ i hi).2
          rw [hone] at hlimit
          rw [h.toNat_next hlimit] at hbelow
          omega

end Updates

/-! ## Steps -/

/-- What a registry can become in one step: nothing happens, everything is dropped, or the row of
one app is updated. -/
inductive Updated (r : Registry) : Registry → Prop
  | same : Updated r r
  | drained : Updated r (drain.run r).2
  | row {app : String} {f : Focus} (hname : f.row.app = app)
    (hf : Issued app ⟨r.rowOrFresh app, r.tokens⟩ f) : Updated r (r.settle app f)

variable {r' : Registry}

/-- A step keeps a registry faithful as long as there are tokens. -/
theorem Faithful.updated (h : Faithful n r) (hu : Updated r r')
    (hlimit : n + r.issuedBetween r' < UInt32.size) : Faithful (n + r.issuedBetween r') r' := by
  cases hu with
  | same =>
    have hzero : r.issuedBetween r = 0 := if_pos rfl
    rw [hzero]
    exact h
  | drained =>
    have hzero : r.issuedBetween (drain.run r).2 = 0 := if_pos rfl
    rw [hzero]
    exact h.drained
  | row hname hf => exact h.settle hf hlimit hname

/-- A token that was issued and stands for nothing does not come to stand for anything. -/
theorem Faithful.resolve_eq_none (h : Faithful n r) (hu : Updated r r')
    (hlimit : n + r.issuedBetween r' < UInt32.size) (hid : id.toNat ≤ n)
    (hnone : r.resolve id = none) : r'.resolve id = none := by
  cases hu with
  | same => exact hnone
  | drained => exact Table.get?_empty id
  | row _ hf =>
    refine Option.eq_none_iff_forall_ne_some.mpr fun i hi => ?_
    rcases h.live_cases hf hlimit (live_of_resolve_settle hi).1 with hold | ⟨hnew, _⟩
    · exact nomatch hnone.symm.trans hold
    · omega

end AppletGateway.Registry
