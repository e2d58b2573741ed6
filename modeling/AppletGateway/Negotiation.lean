import AppletGateway.Bytes
import AppletGateway.Status

/-!
# Negotiated outputs

An output of variable length is agreed in two steps. The caller declares how much it can take; the
callee fills it, or answers "too small" with the length it needs, and the caller asks once more
with that length.

Main statements:

* `Negotiation.fit_of_le`, `Negotiation.fit_of_lt`: an output is given whole or its length is.
* `Negotiation.fitPair_of_fits`, `Negotiation.fitPair_of_not_fits`: a pair is given, or the lengths
  of both outputs are.
* `Lengths.length_corrected`, `Lengths.corrected_get?`: a correction neither adds nor shrinks a
  capacity.
-/

namespace AppletGateway

/-- The largest capacity that can be declared: lengths have sixteen bits on the co-processor
(`MAX_BUFFER_LEN`). -/
def maxCapacity : UInt32 := 65535

/-- The lengths that an operation's outputs need, one per output and at most two. -/
structure Lengths where
  toList : List UInt32
  length_le : toList.length ≤ 2
  deriving DecidableEq

namespace Lengths

@[ext]
theorem ext {a b : Lengths} (h : a.toList = b.toList) : a = b := by
  cases a; cases b; cases h; rfl

/-- No lengths at all. -/
def empty : Lengths := ⟨[], by simp⟩

instance : Inhabited Lengths := ⟨empty⟩

/-- The first two of some lengths (`lengths`). -/
def ofList (lengths : List UInt32) : Lengths :=
  ⟨lengths.take 2, by simp only [List.length_take]; omega⟩

/-- The required lengths merged into the capacities of the call before: a length that was not
corrected stays, and none shrinks (`corrected`). -/
def corrected (previous required : Lengths) : Lengths :=
  ⟨previous.toList.zipIdx.map fun (p, i) =>
      match required.toList[i]? with
      | some r => max r p
      | none => p, by
    simpa using previous.length_le⟩

/-- As many capacities after a correction as before. -/
@[simp]
theorem length_corrected (previous required : Lengths) :
    (previous.corrected required).toList.length = previous.toList.length := by
  simp [corrected]

/-- Each capacity after a correction is the larger of the old one and the one required. -/
theorem corrected_get? (previous required : Lengths) (i : Nat) :
    (previous.corrected required).toList[i]? = previous.toList[i]?.map fun p =>
      match required.toList[i]? with
      | some r => max r p
      | none => p := by
  simp only [corrected, List.getElem?_map, List.getElem?_zipIdx, Nat.zero_add, Option.map_map]
  rfl

end Lengths

/-- The answer to a call with negotiated outputs. -/
inductive Negotiated (α : Type)
  | complete (value : α)
  /-- A declared capacity was too small; these lengths are needed. -/
  | tooSmall (required : Lengths)
  deriving DecidableEq

namespace Negotiated

variable {α β : Type}

/-- The answer with its value changed by `f`. -/
def map (f : α → β) : Negotiated α → Negotiated β
  | complete v => complete (f v)
  | tooSmall l => tooSmall l

/-- The value of a complete answer (`complete`). -/
def value? : Negotiated α → Option α
  | complete v => some v
  | tooSmall _ => none

end Negotiated

namespace Negotiation

/-- An output if it fits its capacity, else the length it has (`fit`). -/
def fit (data : Bytes) (capacity : UInt32) : Negotiated Bytes :=
  if capacity.toNat < data.length then .tooSmall (.ofList [UInt32.ofNat data.length])
  else .complete data

/-- Two outputs that are agreed together: if one does not fit, the lengths of both are given
(`fit_pair`). A second capacity of zero says that the second output is not wanted; it is then left
out. -/
def fitPair (first : Bytes) (firstCapacity : UInt32) (second : Bytes) (secondCapacity : UInt32) :
    Negotiated (Bytes × Bytes) :=
  let second := if secondCapacity = 0 then [] else second
  if first.length ≤ firstCapacity.toNat ∧ second.length ≤ secondCapacity.toNat then
    .complete (first, second)
  else .tooSmall (.ofList [UInt32.ofNat first.length, UInt32.ofNat second.length])

/-- The check of a declared capacity: a mandatory one is positive, and none exceeds the largest
(`check_capacity`). -/
def checkCapacity (capacity : UInt32) (mandatory : Bool) : Except Status Unit :=
  if mandatory ∧ capacity = 0 then .error .invalidInput
  else if maxCapacity < capacity then .error .invalidInput
  else .ok ()

/-- Calls, and on "too small" calls once more with the corrected capacities (`retry_once`). What the
second call answers is final. -/
def retryOnce {m : Type → Type} [Monad m] {α : Type} (initial : Lengths)
    (call : Lengths → m (Negotiated α)) : m (Negotiated α) := do
  match ← call initial with
  | .tooSmall required => call (initial.corrected required)
  | .complete v => return .complete v

/-- An output that fits is given whole. -/
theorem fit_of_le {data : Bytes} {capacity : UInt32} (h : data.length ≤ capacity.toNat) :
    fit data capacity = .complete data := by
  simp [fit, h]

/-- An output that does not fit is answered by its length. -/
theorem fit_of_lt {data : Bytes} {capacity : UInt32} (h : capacity.toNat < data.length) :
    fit data capacity = .tooSmall (.ofList [UInt32.ofNat data.length]) := by
  simp [fit, h]

/-- A pair that fits is given; of an output that is not wanted nothing is left. -/
theorem fitPair_of_fits {first second : Bytes} {firstCapacity secondCapacity : UInt32} :
    let kept := if secondCapacity = 0 then [] else second
    first.length ≤ firstCapacity.toNat ∧ kept.length ≤ secondCapacity.toNat →
      fitPair first firstCapacity second secondCapacity = .complete (first, kept) :=
  fun h => if_pos h

/-- A pair of which one output does not fit is answered by the lengths of both. -/
theorem fitPair_of_not_fits {first second : Bytes} {firstCapacity secondCapacity : UInt32} :
    let kept := if secondCapacity = 0 then [] else second
    ¬ (first.length ≤ firstCapacity.toNat ∧ kept.length ≤ secondCapacity.toNat) →
      fitPair first firstCapacity second secondCapacity =
        .tooSmall (.ofList [UInt32.ofNat first.length, UInt32.ofNat kept.length]) :=
  fun h => if_neg h

end Negotiation

end AppletGateway
