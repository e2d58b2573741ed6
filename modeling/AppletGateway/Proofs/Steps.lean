/-!
# How steps over a state end

A step either gives a value or fails, and its state changes even if it fails. `Ends x s Q` says of
the step `x` started in `s` that its result and its last state satisfy `Q`; there is one rule per
way of putting steps together.

Results:
* `ends_bind`: a sequence of two steps ends as `Q` says if the first ends where the second does so.
* `ends_tryCatch`: the same for a step whose failure is handled.
* `Ends.mono`: what a step is known to end with may be weakened.
* `Keeps.bind`: a sequence of steps keeps what each of them keeps.
* `foldl_prefixes_iff`: a run stays good exactly if none of its steps is bad.
-/

namespace AppletGateway

variable {σ ε α β : Type}

/-- Started in `s`, the step `x` ends with a result and in a state that satisfy `Q`. -/
def Ends (x : ExceptT ε (StateM σ) α) (s : σ) (Q : Except ε α → σ → Prop) : Prop :=
  Q (x.run s).1 (x.run s).2

/-- What has to hold at the end of a step if `f` follows it and ends as `Q` says. -/
def andThen (f : α → ExceptT ε (StateM σ) β) (Q : Except ε β → σ → Prop) :
    Except ε α → σ → Prop
  | .ok a, s => Ends (f a) s Q
  | .error e, s => Q (.error e) s

/-- What has to hold at the end of a step if `h` handles its failure and ends as `Q` says. -/
def orElse (h : ε → ExceptT ε (StateM σ) α) (Q : Except ε α → σ → Prop) :
    Except ε α → σ → Prop
  | .ok a, s => Q (.ok a) s
  | .error e, s => Ends (h e) s Q

variable {x : ExceptT ε (StateM σ) α} {s : σ} {Q R : Except ε α → σ → Prop}

@[simp]
theorem andThen_ok (f : α → ExceptT ε (StateM σ) β) (Q : Except ε β → σ → Prop) (a : α) (s : σ) :
    andThen f Q (.ok a) s = Ends (f a) s Q := rfl

@[simp]
theorem andThen_error (f : α → ExceptT ε (StateM σ) β) (Q : Except ε β → σ → Prop) (e : ε)
    (s : σ) : andThen f Q (.error e) s = Q (.error e) s := rfl

theorem andThen_mapError_ok {ε' : Type} (f : α → ExceptT ε (StateM σ) β) (Q : Except ε β → σ → Prop)
    (g : ε' → ε) (a : α) (s : σ) : andThen f Q ((Except.ok a).mapError g) s = Ends (f a) s Q := rfl

@[simp]
theorem orElse_ok (h : ε → ExceptT ε (StateM σ) α) (a : α) : orElse h Q (.ok a) s = Q (.ok a) s :=
  rfl

@[simp]
theorem orElse_error (h : ε → ExceptT ε (StateM σ) α) (e : ε) :
    orElse h Q (.error e) s = Ends (h e) s Q := rfl

theorem Ends.mono (h : Ends x s Q) (hQ : ∀ r t, Q r t → R r t) : Ends x s R := hQ _ _ h

theorem Ends.and (hQ : Ends x s Q) (hR : Ends x s R) : Ends x s fun r t => Q r t ∧ R r t :=
  ⟨hQ, hR⟩

theorem exists_of_isOk {r : Except ε α} (h : r.isOk = true) : ∃ a, r = .ok a := by
  cases r with
  | error e => cases h
  | ok a => exact ⟨a, rfl⟩

theorem exists_error_of_isOk {r : Except ε α} (h : r.isOk = false) : ∃ e, r = .error e := by
  cases r with
  | error e => exact ⟨e, rfl⟩
  | ok a => cases h

theorem eq_ok_of_toOption {r : Except ε α} {a : α} (h : r.toOption = some a) : r = .ok a := by
  cases r with
  | error e => cases h
  | ok b => exact congrArg Except.ok (Option.some.inj h)

/-! ## Rules -/

theorem run_bind (x : ExceptT ε (StateM σ) α) (f : α → ExceptT ε (StateM σ) β) (s : σ) :
    (x >>= f).run s = match x.run s with
      | (.ok a, t) => (f a).run t
      | (.error e, t) => (.error e, t) := by
  have h : (x >>= f).run s = ExceptT.bindCont f (x.run s).1 (x.run s).2 := rfl
  rw [h]
  rcases x.run s with ⟨_ | a, t⟩ <;> rfl

theorem run_tryCatch (x : ExceptT ε (StateM σ) α) (h : ε → ExceptT ε (StateM σ) α) (s : σ) :
    (tryCatch x h).run s = match x.run s with
      | (.ok a, t) => (.ok a, t)
      | (.error e, t) => (h e).run t := by
  have h : (tryCatch x h).run s = (match (x.run s).1 with
      | .ok a => (pure (.ok a) : StateM σ (Except ε α))
      | .error e => (h e).run) (x.run s).2 := rfl
  rw [h]
  rcases x.run s with ⟨_ | a, t⟩ <;> rfl

/-- Two steps in sequence. -/
theorem ends_bind (f : α → ExceptT ε (StateM σ) β) (Q : Except ε β → σ → Prop) :
    Ends (x >>= f) s Q = Ends x s (andThen f Q) := by
  unfold Ends
  rw [run_bind]
  rcases x.run s with ⟨_ | a, t⟩ <;> rfl

/-- A step whose failure is handled. -/
theorem ends_tryCatch (h : ε → ExceptT ε (StateM σ) α) :
    Ends (tryCatch x h) s Q = Ends x s (orElse h Q) := by
  unfold Ends
  rw [run_tryCatch]
  rcases x.run s with ⟨_ | a, t⟩ <;> rfl

theorem ends_pure (a : α) : Ends (pure a) s Q = Q (.ok a) s := rfl

theorem ends_throw (e : ε) : Ends (throw e) s Q = Q (.error e) s := rfl

theorem ends_lift (x : StateM σ α) :
    Ends (liftM x) s Q = Q (.ok (x.run s).1) (x.run s).2 := rfl

theorem ends_get {Q : Except ε σ → σ → Prop} : Ends get s Q = Q (.ok s) s := rfl

theorem ends_set {Q : Except ε PUnit → σ → Prop} (t : σ) : Ends (set t) s Q = Q (.ok ()) t :=
  rfl

theorem ends_modify {Q : Except ε PUnit → σ → Prop} (f : σ → σ) :
    Ends (modify f) s Q = Q (.ok ()) (f s) := rfl

theorem ends_ite (c : Prop) [Decidable c] (y : ExceptT ε (StateM σ) α) :
    Ends (if c then x else y) s Q = if c then Ends x s Q else Ends y s Q := by
  split <;> rfl

/-! ## Invariants of steps -/

/-- However the step ends, it leaves a state that satisfies `I` if it has started in one. -/
def Keeps (I : σ → Prop) (x : ExceptT ε (StateM σ) α) : Prop :=
  ∀ s, I s → Ends x s fun _ t => I t

variable {I : σ → Prop}

theorem Keeps.bind {f : α → ExceptT ε (StateM σ) β} (hx : Keeps I x)
    (hf : ∀ a, Keeps I (f a)) : Keeps I (x >>= f) := by
  intro s hs
  rw [ends_bind]
  refine (hx s hs).mono fun r t ht => ?_
  cases r with
  | error e => exact ht
  | ok a => exact hf a t ht

theorem keeps_pure (a : α) : Keeps I (pure a : ExceptT ε (StateM σ) α) := fun _ hs => hs

theorem keeps_throw (e : ε) : Keeps I (throw e : ExceptT ε (StateM σ) α) := fun _ hs => hs

theorem keeps_throw_bind {e : ε} {f : β → ExceptT ε (StateM σ) α} : Keeps I (throw e >>= f) :=
  fun _ hs => hs

/-- A step that looks at the state may use that it satisfies the invariant. -/
theorem keeps_get {f : σ → ExceptT ε (StateM σ) β}
    (hf : ∀ s, I s → Ends (f s) s fun _ t => I t) : Keeps I (get >>= f) := by
  intro s hs
  rw [ends_bind]
  exact hf s hs

theorem keeps_modify {f : σ → σ} (hf : ∀ s, I s → I (f s)) :
    Keeps I (modify f : ExceptT ε (StateM σ) PUnit) := hf

theorem Keeps.tryCatch {h : ε → ExceptT ε (StateM σ) α} (hx : Keeps I x)
    (hh : ∀ e, Keeps I (h e)) : Keeps I (tryCatch x h) := by
  intro s hs
  rw [ends_tryCatch]
  refine (hx s hs).mono fun r t ht => ?_
  cases r with
  | error e => exact hh e t ht
  | ok a => exact ht

theorem keeps_ite {c : Prop} [Decidable c] {y : ExceptT ε (StateM σ) α} (hx : Keeps I x)
    (hy : Keeps I y) : Keeps I (if c then x else y) := by
  split
  · exact hx
  · exact hy

/-! ## Runs -/

/-- If steps keep an invariant while all is good, and all stays good exactly if the step is not bad,
then a run is good all the way exactly if none of its steps is bad where it is made. -/
theorem foldl_prefixes_iff {κ : Type} {step : σ → κ → σ} {good : σ → Prop} {bad : σ → κ → Prop}
    (hstep : ∀ s k, I s → good s → I (step s k) ∧ (good (step s k) ↔ ¬ bad s k)) (hI : I s)
    (hgood : good s) (steps : List κ) :
    (∀ before, before <+: steps → good (before.foldl step s)) ↔
      ∀ before k, before ++ [k] <+: steps → ¬ bad (before.foldl step s) k := by
  -- Up to the first bad step all is good, and that is what the induction goes by.
  induction steps generalizing s with
  | nil =>
    refine iff_of_true (fun before hb => ?_) fun before k hb => ?_
    · rw [List.prefix_nil.mp hb]
      exact hgood
    · simp at hb
  | cons x steps ih =>
    obtain ⟨hI', hiff⟩ := hstep s x hI hgood
    constructor
    · intro hall before k hb
      have hfirst : good (step s x) := hall [x] ⟨steps, rfl⟩
      cases before with
      | nil =>
        obtain ⟨rest, hrest⟩ := hb
        obtain rfl := (List.cons.inj hrest).1
        exact hiff.mp hfirst
      | cons y before =>
        obtain ⟨rfl, htail⟩ := List.cons_prefix_cons.mp hb
        refine (ih hI' hfirst).mp (fun before hb => ?_) before k htail
        exact hall (y :: before) (List.cons_prefix_cons.mpr ⟨rfl, hb⟩)
    · intro hno before hb
      have hfirst : good (step s x) := hiff.mpr (hno [] x ⟨steps, rfl⟩)
      cases before with
      | nil => exact hgood
      | cons y before =>
        obtain ⟨rfl, htail⟩ := List.cons_prefix_cons.mp hb
        refine (ih hI' hfirst).mpr (fun before k hb => ?_) before htail
        exact hno (y :: before) k (List.cons_prefix_cons.mpr ⟨rfl, hb⟩)

end AppletGateway
