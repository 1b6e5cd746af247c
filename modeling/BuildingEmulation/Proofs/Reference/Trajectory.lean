import BuildingEmulation.Proofs.Extended
import BuildingEmulation.Reference.Trajectory
import Mathlib.Data.List.Forall2
import Mathlib.Order.WithBot

/-!
# Deviations from a reference

A sample and its reference are some distance apart if both are numbers, and infinitely far if one of
them is infinite or undefined: a difference that has no value is worse than any that has one. So the
errors of all samples stand in one order, and the search for the worst one cannot be led astray by
what does not compare.

Results:
* `deviation_eq`: the deviation of a sample is its error.
* `worstFrom_leads`: the search ends with the largest error, at its first place.
* `compare_judges`: the verdict on two trajectories.
* `columns_pass`: a signal agrees only where both logs have recorded numbers.
* `deviations_reported`: the verdicts on all signals of two logs.
-/
namespace BuildingEmulation.Reference

open Scalar (Extended)

/-! ## Errors -/

/-- The absolute error of a sample, and the relative error on top of it where the reference is not
small. Between scalars that are not both finite the difference is infinite or undefined, and either
counts as infinite. -/
def errorOf : Extended → Extended → WithTop Rat
  | .finite a, .finite e =>
    ((|a - e| + if 1 / 100 < |e| then |a - e| / |e| else 0 : Rat) : WithTop Rat)
  | _, _ => ⊤

/-- The largest error that passes. -/
def allowed : WithTop Rat := (1 / 1000 : Rat)

/-- An error among the extended scalars. -/
def ofError : WithTop Rat → Extended
  | some q => .finite q
  | none => .infinite false

theorem ofError_lt {x y : WithTop Rat} : ofError x < ofError y ↔ x < y := by
  cases x with
  | top => exact iff_of_false (by cases y <;> exact nofun) not_top_lt
  | coe p =>
    cases y with
    | top => exact iff_of_true rfl (WithTop.coe_lt_top p)
    | coe q => exact (Extended.finite_lt p q).trans WithTop.coe_lt_coe.symm

theorem tolerance_eq : (tolerance : Extended) = ofError allowed := by
  change Extended.finite (1e-3 : Rat) = .finite (1 / 1000)
  norm_num

theorem tenfold_tolerance : (10.0 * tolerance : Extended) = .finite (1 / 100) := by
  change Extended.finite ((10.0 : Rat) * (1e-3 : Rat)) = _
  norm_num

theorem one_div_zero : (1.0 / 0.0 : Extended) = .infinite false := by decide +kernel

theorem abs_finite (q : Rat) : Scalar.abs (Extended.finite q) = .finite |q| := by
  rw [← abs_exact]
  rfl

theorem div_finite (p : Rat) {q : Rat} (h : q ≠ 0) :
    (Extended.finite p / .finite q : Extended) = .finite (p / q) := if_neg h

theorem infinite_div_finite {q : Rat} (h : 0 ≤ q) :
    (Extended.infinite false / .finite q : Extended) = .infinite false := by
  change Extended.infinite (false != decide (q < 0)) = _
  rw [decide_eq_false (not_lt.2 h)]
  rfl

theorem deviation_finite (p q : Rat) :
    deviation (.finite p) (.finite q) = ofError (errorOf (.finite p) (.finite q)) := by
  unfold deviation
  rw [tenfold_tolerance, Extended.zero_finite]
  simp only [Extended.finite_sub, abs_finite, Extended.finite_lt]
  change _ = Extended.finite (|p - q| + if 1 / 100 < |q| then |p - q| / |q| else 0)
  by_cases large : 1 / 100 < |q|
  · have hq : |q| ≠ 0 := by linarith
    rw [if_pos large, if_pos large, div_finite _ hq, Extended.finite_add, Extended.isNaN_finite]
    rfl
  · rw [if_neg large, if_neg large, Extended.finite_add, Extended.isNaN_finite]
    rfl

/-- Whichever of the two is not finite, and whether or not there is a relative error, the sum is
positively infinite or undefined. -/
theorem deviation_eq (a e : Extended) : deviation a e = ofError (errorOf a e) := by
  rcases a with p | s | _ <;> rcases e with q | t | _
  · exact deviation_finite p q
  all_goals
    unfold deviation
    rw [tenfold_tolerance, one_div_zero, Extended.zero_finite]
  · rfl
  · rfl
  · have hd : Scalar.abs (Extended.infinite s - .finite q) = .infinite false := rfl
    rw [hd, abs_finite]
    split
    · simp only [infinite_div_finite (abs_nonneg q)]
      rfl
    · rfl
  · cases s <;> cases t <;> rfl
  · rfl
  · split <;> rfl
  · rfl
  · rfl

/-! ## The worst error -/

/-- An error that no other one exceeds, at the first place where it occurs. -/
structure Leads (errors : List (WithTop Rat)) (error : WithTop Rat) (index : Nat) : Prop where
  attained : errors[index]? = some error
  largest : ∀ x ∈ errors, x ≤ error
  first : ∀ j < index, ∀ x, errors[j]? = some x → x < error

variable {errors : List (WithTop Rat)} {error x : WithTop Rat} {index : Nat}

theorem Leads.lt_length (h : Leads errors error index) : index < errors.length :=
  (List.getElem?_eq_some_iff.1 h.attained).1

theorem leads_singleton (x : WithTop Rat) : Leads [x] x 0 where
  attained := rfl
  largest y hy := (List.mem_singleton.1 hy).le
  first j hj := by omega

/-- A larger error takes the lead. -/
theorem Leads.overtaken (h : Leads errors error index) (larger : error < x) :
    Leads (errors ++ [x]) x errors.length where
  attained := by simp
  largest y hy := by
    rcases List.mem_append.1 hy with hy | hy
    · exact (h.largest y hy).trans larger.le
    · exact (List.mem_singleton.1 hy).le
  first j hj y hy := by
    rw [List.getElem?_append_left hj] at hy
    exact (h.largest y (List.mem_of_getElem? hy)).trans_lt larger

/-- Any other one stays behind. -/
theorem Leads.kept (h : Leads errors error index) (behind : ¬ error < x) :
    Leads (errors ++ [x]) error index where
  attained := by rw [List.getElem?_append_left h.lt_length, h.attained]
  largest y hy := by
    rcases List.mem_append.1 hy with hy | hy
    · exact h.largest y hy
    · rw [List.mem_singleton.1 hy]
      exact not_lt.1 behind
  first j hj y hy := by
    rw [List.getElem?_append_left (hj.trans h.lt_length)] at hy
    exact h.first j hj y hy

/-- The search goes on from the samples that it has seen. The induction is on those that are left. -/
theorem worstFrom_leads (h : Leads errors error index) (samples : List (Extended × Extended)) :
    ∃ error' index', worstFrom errors.length (some (ofError error, index)) samples =
        some (ofError error', index') ∧
      Leads (errors ++ samples.map fun s => errorOf s.1 s.2) error' index' := by
  induction samples generalizing errors error index with
  | nil => exact ⟨error, index, rfl, by simpa using h⟩
  | cons sample rest ih =>
    have next (x : WithTop Rat) : errors.length + 1 = (errors ++ [x]).length := by simp
    rw [List.map_cons, List.append_cons]
    unfold worstFrom
    simp only [deviation_eq, ofError_lt]
    split
    · next larger =>
      rw [next (errorOf sample.1 sample.2)]
      exact ih (h.overtaken larger)
    · next behind =>
      rw [next (errorOf sample.1 sample.2)]
      exact ih (h.kept behind)

/-! ## Verdicts -/

/-- The errors of the samples that both trajectories have. -/
def errorsOf (test reference : List Extended) : List (WithTop Rat) :=
  List.zipWith errorOf test reference

/-- What a verdict on a trajectory tells. -/
structure Judges (test reference : List Extended) (v : Verdict Extended) : Prop where
  passed : v.passed = true ↔
    test.length = reference.length ∧ ∀ x ∈ errorsOf test reference, x ≤ allowed
  worst : v.passed = false → test.length = reference.length →
    ∃ error index, v.error? = some (ofError error) ∧ v.index? = some index ∧
      Leads (errorsOf test reference) error index
  ragged : test.length ≠ reference.length → v.error? = none ∧ v.index? = none

variable {test reference : List Extended}

theorem errorsOf_eq (test reference : List Extended) :
    errorsOf test reference = (test.zip reference).map fun s => errorOf s.1 s.2 := by
  unfold errorsOf
  rw [List.zip, List.map_zipWith]

theorem worst_leads {sample : Extended × Extended} {rest : List (Extended × Extended)}
    (h : test.zip reference = sample :: rest) :
    ∃ error index, worstFrom 0 none (test.zip reference) = some (ofError error, index) ∧
      Leads (errorsOf test reference) error index := by
  rw [errorsOf_eq, h]
  unfold worstFrom
  simp only [deviation_eq]
  exact worstFrom_leads (leads_singleton (errorOf sample.1 sample.2)) rest

theorem compare_judges (test reference : List Extended) :
    Judges test reference (compare test reference) := by
  by_cases length : test.length = reference.length
  · unfold compare
    rw [if_neg (not_not.2 length)]
    cases h : test.zip reference with
    | nil =>
      have empty : errorsOf test reference = [] := by rw [errorsOf_eq, h, List.map_nil]
      refine ⟨iff_of_true rfl ⟨length, by simp [empty]⟩, nofun, fun h => absurd length h⟩
    | cons sample rest =>
      obtain ⟨error, index, found, leads⟩ := worst_leads h
      rw [← h, found]
      simp only [tolerance_eq, ofError_lt]
      split
      · next larger =>
        refine ⟨iff_of_false nofun ?_, fun _ _ => ⟨error, index, rfl, rfl, leads⟩,
          fun h => absurd length h⟩
        rintro ⟨-, all⟩
        exact not_le.2 larger (all error (List.mem_of_getElem? leads.attained))
      · next within =>
        refine ⟨iff_of_true rfl ⟨length, ?_⟩, nofun, fun h => absurd length h⟩
        exact fun x hx => (leads.largest x hx).trans (not_lt.1 within)
  · rw [compare_of_length_ne length]
    exact ⟨iff_of_false nofun fun h => length h.1, fun _ h => absurd h length, fun _ => ⟨rfl, rfl⟩⟩

/-! ## Logs -/

variable {rows rows' : List (ResultRow Extended)} {signal : String}

/-- Every row of a log has recorded a number for a signal. -/
def Recorded (signal : String) (rows : List (ResultRow Extended)) : Prop :=
  ∀ row ∈ rows, ∃ q, row.values.get? signal = some (.finite q)

/-- The verdict on the times of two logs. -/
def timesVerdict (test reference : List (ResultRow Extended)) : Verdict Extended :=
  compare (test.map (·.time)) (reference.map (·.time))

/-- The verdict on a signal of two logs. -/
def signalVerdict (test reference : List (ResultRow Extended)) (signal : String) :
    Verdict Extended :=
  compare (column test signal) (column reference signal)

/-- Only numbers are within a finite error of each other. -/
theorem finite_of_errorOf_le {a e : Extended} (h : errorOf a e ≤ allowed) :
    (∃ p, a = .finite p) ∧ ∃ q, e = .finite q := by
  have top : ¬ (⊤ : WithTop Rat) ≤ allowed := not_le.2 (WithTop.coe_lt_top _)
  rcases a with p | s | _ <;> rcases e with q | t | _
  · exact ⟨⟨p, rfl⟩, q, rfl⟩
  all_goals exact absurd h top

/-- What is missing from a row is undefined in the column. -/
theorem recorded_of_finite {row : ResultRow Extended} {q : Rat}
    (h : (row.values.get? signal).getD (0.0 / 0.0) = .finite q) :
    row.values.get? signal = some (.finite q) := by
  have undefined : (0.0 / 0.0 : Extended) = .undefined := by decide +kernel
  cases hx : row.values.get? signal with
  | none =>
    rw [hx, Option.getD_none, undefined] at h
    cases h
  | some x =>
    rw [hx] at h
    exact congrArg some h

theorem errorsOf_getElem? {i : Nat} {a e : Extended} (ha : test[i]? = some a)
    (he : reference[i]? = some e) : (errorsOf test reference)[i]? = some (errorOf a e) := by
  unfold errorsOf
  rw [List.getElem?_zipWith, ha, he]

/-- Rows that stand at the same place and do not fail their logs have recorded numbers. -/
theorem recorded_at {i : Nat} {row row' : ResultRow Extended} (h : rows[i]? = some row)
    (h' : rows'[i]? = some row')
    (all : ∀ x ∈ errorsOf (column rows signal) (column rows' signal), x ≤ allowed) :
    (∃ p, row.values.get? signal = some (.finite p)) ∧
      ∃ q, row'.values.get? signal = some (.finite q) := by
  have sample : ∀ {rows : List (ResultRow Extended)} {row : ResultRow Extended},
      rows[i]? = some row →
        (column rows signal)[i]? = some ((row.values.get? signal).getD (0.0 / 0.0)) := by
    intro rows row h
    unfold column
    rw [List.getElem?_map, h]
    rfl
  obtain ⟨⟨p, hp⟩, q, hq⟩ := finite_of_errorOf_le
    (all _ (List.mem_of_getElem? (errorsOf_getElem? (sample h) (sample h'))))
  exact ⟨⟨p, recorded_of_finite hp⟩, q, recorded_of_finite hq⟩

theorem columns_pass (h : (signalVerdict rows rows' signal).passed = true) :
    rows.length = rows'.length ∧ Recorded signal rows ∧ Recorded signal rows' := by
  obtain ⟨length, all⟩ := (compare_judges _ _).passed.1 h
  have length : rows.length = rows'.length := by simpa [column] using length
  refine ⟨length, fun row hm => ?_, fun row hm => ?_⟩
  · obtain ⟨i, hi⟩ := List.mem_iff_getElem?.1 hm
    have within : i < rows'.length := length ▸ (List.getElem?_eq_some_iff.1 hi).1
    exact (recorded_at hi (List.getElem?_eq_getElem within) all).1
  · obtain ⟨i, hi⟩ := List.mem_iff_getElem?.1 hm
    have within : i < rows.length := length ▸ (List.getElem?_eq_some_iff.1 hi).1
    exact (recorded_at (List.getElem?_eq_getElem within) hi all).2

/-- The times are told first, and then the signals in the order in which they were asked for. -/
theorem failures_eq (test reference : List (ResultRow Extended)) (signals : List String) :
    failures test reference signals =
      (if (timesVerdict test reference).passed = true then []
        else [("time", timesVerdict test reference)]) ++
      (signals.filter fun s => !(signalVerdict test reference s).passed).map
        fun s => (s, signalVerdict test reference s) := by
  have told : failures test reference signals =
      (("time", timesVerdict test reference) ::
        signals.map fun s => (s, signalVerdict test reference s)).filter fun e => !e.2.passed := by
    unfold failures
    refine List.filter_congr fun ⟨_, verdict⟩ _ => ?_
    cases verdict <;> rfl
  rw [told, List.filter_cons, List.filter_map]
  cases (timesVerdict test reference).passed <;> rfl

theorem failures_eq_nil_iff {test reference : List (ResultRow Extended)} {signals : List String} :
    failures test reference signals = [] ↔ (timesVerdict test reference).passed = true ∧
      ∀ s ∈ signals, (signalVerdict test reference s).passed = true := by
  rw [failures_eq, List.append_eq_nil_iff, List.map_eq_nil_iff, List.filter_eq_nil_iff]
  simp

/-- A sample deviates by its error. A trajectory passes if it is as long as its reference and no error
is larger than allowed; if it fails for an error, the largest one and its first place are told, and if
it fails for its length neither is. Two logs pass in all signals if they have as many rows, their times
pass, and both have recorded numbers that pass for every signal; otherwise what is told is the verdict
on the times, if they fail, and then those on the signals that fail. -/
theorem deviations_reported :
    (∀ a e : Extended, deviation a e = ofError (errorOf a e)) ∧
    (∀ test reference : List Extended, Judges test reference (compare test reference)) ∧
    ∀ (test reference : List (ResultRow Extended)) (signals : List String),
      (failures test reference signals = [] ↔
        (test.length = reference.length ∧ (timesVerdict test reference).passed = true ∧
          ∀ s ∈ signals, Recorded s test ∧ Recorded s reference ∧
            (signalVerdict test reference s).passed = true) ∨
        test = [] ∧ reference = []) ∧
      failures test reference signals =
        (if (timesVerdict test reference).passed = true then []
          else [("time", timesVerdict test reference)]) ++
        (signals.filter fun s => !(signalVerdict test reference s).passed).map
          fun s => (s, signalVerdict test reference s) := by
  refine ⟨deviation_eq, compare_judges, fun test reference signals =>
    ⟨?_, failures_eq test reference signals⟩⟩
  rw [failures_eq_nil_iff]
  constructor
  · rintro ⟨times, all⟩
    have length : test.length = reference.length := by
      simpa using ((compare_judges _ _).passed.1 times).1
    refine .inl ⟨length, times, fun s hs => ?_⟩
    obtain ⟨-, recorded, recorded'⟩ := columns_pass (all s hs)
    exact ⟨recorded, recorded', all s hs⟩
  · rintro (⟨-, times, all⟩ | ⟨rfl, rfl⟩)
    · exact ⟨times, fun s hs => (all s hs).2.2⟩
    · exact ⟨rfl, fun s _ => rfl⟩

end BuildingEmulation.Reference
