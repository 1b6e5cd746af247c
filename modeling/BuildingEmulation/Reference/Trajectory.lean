import BuildingEmulation.ResultsLog

/-!
# Comparing trajectories

A trajectory agrees with its reference if no sample deviates by more than the tolerance. The
deviation is the absolute error, and where the reference is not small the relative error on top of
it; a deviation that is undefined counts as infinite.

Results:
* `compare_of_length_ne`: trajectories of different lengths are not compared.
-/
namespace BuildingEmulation.Reference

/-- The outcome of a comparison. Mirrors `TrajectoryCheck`. -/
inductive Verdict (α : Type)
  | agrees
  | lengthsDiffer (test reference : Nat)
  /-- The largest deviation and the first index at which it occurs. -/
  | deviates (error : α) (index : Nat)
  deriving Repr, BEq

section

variable {α : Type} [Scalar α]

/-- The deviation that is still allowed. -/
def tolerance : α := 1e-3

/-- How far a sample deviates from its reference. -/
def deviation (actual expected : α) : α :=
  let absolute := Scalar.abs (actual - expected)
  let relative := if 10.0 * tolerance < Scalar.abs expected then absolute / Scalar.abs expected else 0.0
  if Scalar.isNaN (absolute + relative) then 1.0 / 0.0 else absolute + relative

/-- The larger of the worst deviation so far and those of the samples from `index` on, the first of
equals. -/
def worstFrom (index : Nat) (worst : Option (α × Nat)) : List (α × α) → Option (α × Nat)
  | [] => worst
  | (actual, expected) :: rest =>
    let error := deviation actual expected
    let worst := match worst with
      | none => some (error, index)
      | some (largest, first) => if largest < error then some (error, index) else some (largest, first)
    worstFrom (index + 1) worst rest

/-- Compare a trajectory with its reference. Mirrors `check_trajectory`. -/
def compare (test reference : List α) : Verdict α :=
  if test.length ≠ reference.length then .lengthsDiffer test.length reference.length
  else match worstFrom 0 none (test.zip reference) with
    | some (error, index) => if tolerance < error then .deviates error index else .agrees
    | none => .agrees

/-- The samples of a signal; one that was not recorded is undefined. -/
def column (rows : List (ResultRow α)) (signal : String) : List α :=
  rows.map fun row => (row.values.get? signal).getD (0.0 / 0.0)

/-- The signals that do not agree, after the times if those do not. Mirrors `check_results`. -/
def failures (test reference : List (ResultRow α)) (signals : List String) :
    List (String × Verdict α) :=
  let times := ("time", compare (test.map (·.time)) (reference.map (·.time)))
  let columns := signals.map fun s => (s, compare (column test s) (column reference s))
  (times :: columns).filter fun (_, verdict) => !(match verdict with | .agrees => true | _ => false)

theorem compare_of_length_ne {test reference : List α} (h : test.length ≠ reference.length) :
    compare test reference = .lengthsDiffer test.length reference.length := by
  simp [compare, h]

end

namespace Verdict

variable {α : Type}

def passed : Verdict α → Bool
  | agrees => true
  | _ => false

def error? : Verdict α → Option α
  | deviates error _ => some error
  | _ => none

def index? : Verdict α → Option Nat
  | deviates _ index => some index
  | _ => none

/-- What is said of a verdict, unless the trajectories agree. -/
def message? [Scalar α] [Decimal.Numeral α] : Verdict α → Option String
  | agrees => none
  | lengthsDiffer test reference =>
    some s!"test and reference trajectory differ in length ({test} vs {reference})"
  | deviates error index =>
    let limit := Decimal.plain (tolerance : α)
    some s!"max error ({Decimal.plain error}) in trajectory greater than tolerance ({limit}) at index {index}"

end Verdict

end BuildingEmulation.Reference
