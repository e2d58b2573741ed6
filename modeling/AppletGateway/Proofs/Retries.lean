import AppletGateway.Negotiation
import AppletGateway.Proofs.Steps

/-!
# One retry

A caller who declares too little is told what is needed and asks once more, with every capacity
raised to that. The second answer is final. It is the outputs, if these are the same both times,
since the lengths of both outputs of a pair are told as soon as one of them does not fit.

Results:
* `retried_retryOnce`: which calls are made, and which answer is given.
* `fit_of_raised`, `fitPair_of_raised`: outputs fit the capacities that are raised to their
  lengths.
* `one_retry_suffices`: no call function is called more than twice, and no output needs more.
-/

namespace AppletGateway

/-- `next` are the capacities `previous`, each raised to the length that `required` has for it. -/
structure Lengths.Raised (previous required next : Lengths) : Prop where
  as_many : next.toList.length = previous.toList.length
  each : ∀ (i : Nat) (p : UInt32), previous.toList[i]? = some p →
    next.toList[i]? = some (max p (required.toList[i]?.getD p))

theorem Lengths.raised_corrected (previous required : Lengths) :
    previous.Raised required (previous.corrected required) where
  as_many := length_corrected previous required
  each i p hp := by
    rw [corrected_get?, hp, Option.map_some]
    refine congrArg some (UInt32.toNat_inj.mp ?_)
    cases required.toList[i]? with
    | none =>
      show p.toNat = (max p p).toNat
      rw [toNat_max, Nat.max_self]
    | some r =>
      show (max r p).toNat = (max p r).toNat
      rw [toNat_max, toNat_max, Nat.max_comm]

namespace Negotiation

variable {ε σ α : Type}

/-! ## The calls -/

/-- What a call was made with, and how it ended. -/
abbrev Attempt (ε α : Type) := Lengths × Except ε (Negotiated α)

/-- The call function, which also notes what it is called with and how it ends, even in failure. -/
def noting (call : Lengths → ExceptT ε (StateM σ) (Negotiated α)) (capacities : Lengths) :
    ExceptT ε (StateM (σ × List (Attempt ε α))) (Negotiated α) := ExceptT.mk do
  let (s, attempts) ← get
  let (answer, t) := (call capacities).run s
  set (t, attempts ++ [(capacities, answer)])
  return answer

theorem run_noting (call : Lengths → ExceptT ε (StateM σ) (Negotiated α)) (capacities : Lengths)
    (s : σ) (attempts : List (Attempt ε α)) :
    (noting call capacities).run (s, attempts) = (((call capacities).run s).1,
      ((call capacities).run s).2, attempts ++ [(capacities, ((call capacities).run s).1)]) := rfl

/-- The attempts that there may be from the capacities `initial`, with the answer that is given. -/
inductive Retried (initial : Lengths) : List (Attempt ε α) → Except ε (Negotiated α) → Prop
  | once {answer : Except ε (Negotiated α)} (h : ∀ required, answer ≠ .ok (.tooSmall required)) :
    Retried initial [(initial, answer)] answer
  | twice {required next : Lengths} {answer : Except ε (Negotiated α)}
    (h : initial.Raised required next) :
    Retried initial [(initial, .ok (.tooSmall required)), (next, answer)] answer

/-- The calls are made as they may be, and noting them changes nothing else. -/
theorem retried_retryOnce (call : Lengths → ExceptT ε (StateM σ) (Negotiated α))
    (initial : Lengths) (s : σ) :
    let done := (retryOnce initial (noting call)).run (s, [])
    Retried initial done.2.2 done.1 ∧ (retryOnce initial call).run s = (done.1, done.2.1) := by
  intro done
  have hdone : done = (retryOnce initial (noting call)).run (s, []) := rfl
  rw [retryOnce, run_bind, run_noting] at hdone
  rw [hdone, retryOnce, run_bind]
  rcases (call initial).run s with ⟨e | ⟨v⟩ | ⟨required⟩, t⟩
  · exact ⟨.once nofun, rfl⟩
  · exact ⟨.once nofun, rfl⟩
  · exact ⟨.twice (Lengths.raised_corrected initial required), rfl⟩

/-! ## The outputs -/

variable {x y : Bytes}

/-- An output fits a capacity that is raised to its length. -/
theorem fit_of_raised (hx : x.length < UInt32.size) (capacity : UInt32) :
    fit x (max (UInt32.ofNat x.length) capacity) = .complete x := by
  apply fit_of_le
  rw [toNat_max, UInt32.toNat_ofNat_of_lt' hx]
  exact Nat.le_max_left _ _

/-- A capacity that is raised does not become zero. -/
theorem max_ne_zero (a : UInt32) {b : UInt32} (h : b ≠ 0) : max a b ≠ 0 := by
  intro hmax
  apply h
  have hle := toNat_max a b
  rw [hmax] at hle
  apply UInt32.toNat_inj.mp
  show b.toNat = 0
  have : (0 : UInt32).toNat = 0 := rfl
  omega

/-- Both outputs fit the capacities that are raised to their lengths. An output that is not wanted
counts as empty, so its capacity stays zero. -/
theorem fitPair_of_raised (hx : x.length < UInt32.size) (hy : y.length < UInt32.size)
    (first second : UInt32) :
    let kept := if second = 0 then [] else y
    fitPair x (max (UInt32.ofNat x.length) first) y (max (UInt32.ofNat kept.length) second) =
      .complete (x, kept) := by
  intro kept
  have hkept : kept.length < UInt32.size := by
    show (if second = 0 then [] else y).length < UInt32.size
    split
    · exact Nat.two_pow_pos 32
    · exact hy
  have hfirst : x.length ≤ (max (UInt32.ofNat x.length) first).toNat := by
    rw [toNat_max, UInt32.toNat_ofNat_of_lt' hx]
    exact Nat.le_max_left _ _
  have hsecond : kept.length ≤ (max (UInt32.ofNat kept.length) second).toNat := by
    rw [toNat_max, UInt32.toNat_ofNat_of_lt' hkept]
    exact Nat.le_max_left _ _
  -- A capacity that is not zero does not become zero, and zero stays zero.
  have hsame : (if max (UInt32.ofNat kept.length) second = 0 then [] else y) = kept := by
    by_cases hzero : second = 0
    · have : kept = [] := if_pos hzero
      rw [this, hzero]
      rfl
    · have : kept = y := if_neg hzero
      rw [if_neg (max_ne_zero _ hzero), this]
  rw [fitPair, hsame]
  exact if_pos ⟨hfirst, hsecond⟩

section Pure

variable {m : Type → Type} [Monad m] [LawfulMonad m] {answer : Lengths → Negotiated α}
  {initial : Lengths}

/-- A callee without effects is not called again after its outputs have fitted. -/
theorem retryOnce_of_complete {v : α} (h : answer initial = .complete v) :
    retryOnce initial (fun capacities => (pure (answer capacities) : m (Negotiated α))) =
      pure (.complete v) := by
  rw [retryOnce, pure_bind, h]

/-- A callee without effects is called again with the corrected capacities. -/
theorem retryOnce_of_tooSmall {required : Lengths} (h : answer initial = .tooSmall required) :
    retryOnce initial (fun capacities => (pure (answer capacities) : m (Negotiated α))) =
      pure (answer (initial.corrected required)) := by
  rw [retryOnce, pure_bind, h]

/-- A callee with one output gives it, whatever is declared at first. -/
theorem retryOnce_fit (hx : x.length < UInt32.size) {capacity : UInt32}
    (hinitial : initial.toList.head? = some capacity) (default : UInt32) :
    retryOnce initial (fun capacities =>
      (pure (fit x (capacities.toList.head?.getD default)) : m (Negotiated Bytes))) =
      pure (.complete x) := by
  have hfirst : initial.toList.head?.getD default = capacity := by
    rw [hinitial, Option.getD_some]
  rcases Nat.lt_or_ge capacity.toNat x.length with hlt | hle
  · have hraised : (initial.corrected (.ofList [UInt32.ofNat x.length])).toList.head? =
        some (max (UInt32.ofNat x.length) capacity) := by
      rw [List.head?_eq_getElem?] at hinitial ⊢
      rw [Lengths.corrected_get?, hinitial]
      rfl
    have hsmall := fit_of_lt hlt
    rw [← hfirst] at hsmall
    rw [retryOnce_of_tooSmall hsmall, hraised, Option.getD_some, fit_of_raised hx]
  · have hfits := fit_of_le hle
    rw [← hfirst] at hfits
    rw [retryOnce_of_complete hfits]

/-- A callee with a pair of outputs gives both, or the first alone if the second is not wanted. -/
theorem retryOnce_fitPair (hx : x.length < UInt32.size) (hy : y.length < UInt32.size)
    (first second default : UInt32) :
    retryOnce (.ofList [first, second]) (fun capacities =>
      (pure (fitPair x (capacities.toList.head?.getD default) y (capacities.toList[1]?.getD 0)) :
        m (Negotiated (Bytes × Bytes)))) =
      pure (.complete (x, if second = 0 then [] else y)) := by
  by_cases h : x.length ≤ first.toNat ∧
      (if second = 0 then [] else y).length ≤ second.toNat
  · exact retryOnce_of_complete (fitPair_of_fits h)
  · have hsmall := fitPair_of_not_fits h
    have hagain := fitPair_of_raised hx hy first second
    rw [retryOnce_of_tooSmall hsmall]
    exact congrArg pure hagain

end Pure

/-- A call function is called once, or twice if the first answer is "too small": the second time
with as many capacities, each raised to the one it is told. The last answer is given. One or two
outputs whose lengths can be told are given in this way whatever is declared at first, the second
exactly if a capacity other than zero is declared for it. -/
theorem one_retry_suffices (call : Lengths → ExceptT ε (StateM σ) (Negotiated α))
    (initial : Lengths) (s : σ) (hx : x.length < UInt32.size) (hy : y.length < UInt32.size) :
    (let done := (retryOnce initial (noting call)).run (s, [])
     Retried initial done.2.2 done.1 ∧ (retryOnce initial call).run s = (done.1, done.2.1)) ∧
    (∀ (initial : Lengths) (capacity default : UInt32),
      initial.toList.head? = some capacity →
      retryOnce initial (fun capacities =>
        (pure (fit x (capacities.toList.head?.getD default)) :
          ExceptT ε (StateM σ) (Negotiated Bytes))) = pure (.complete x)) ∧
    ∀ first second default : UInt32,
      retryOnce (.ofList [first, second]) (fun capacities =>
        (pure (fitPair x (capacities.toList.head?.getD default) y
          (capacities.toList[1]?.getD 0)) :
          ExceptT ε (StateM σ) (Negotiated (Bytes × Bytes)))) =
        pure (.complete (x, if second = 0 then [] else y)) :=
  ⟨retried_retryOnce call initial s,
    fun _ _ default hinitial => retryOnce_fit hx hinitial default, retryOnce_fitPair hx hy⟩

/-- A pair whose first output does not fit is told with both lengths, so a token that is wanted
comes with the second answer. -/
theorem pair_given_on_retry :
    let x : Bytes := [1, 2, 3]
    let y : Bytes := [4]
    let call (capacities : Lengths) : ExceptT Unit (StateM Unit) (Negotiated (Bytes × Bytes)) :=
      pure (fitPair x (capacities.toList.head?.getD 0) y (capacities.toList[1]?.getD 0))
    let initial := Lengths.ofList [1, 1]
    x.length < UInt32.size ∧ y.length < UInt32.size ∧
    ((retryOnce initial (noting call)).run ((), [])).2.2 =
      [(initial, .ok (.tooSmall (.ofList [3, 1]))),
        (.ofList [3, 1], .ok (.complete (x, y)))] ∧
    retryOnce initial call = pure (.complete (x, y)) := by
  intro x y call initial
  have hx : x.length < UInt32.size := by decide
  have hy : y.length < UInt32.size := by decide
  have h := one_retry_suffices call initial () hx hy
  exact ⟨hx, hy, rfl, h.2.2 1 1 0⟩

end Negotiation

end AppletGateway
