import BuildingEmulation.Proofs.Exact
import BuildingEmulation.ResultsLog

/-!
# Indicators computed from the log

What an indicator is worth can be read off the rows of the log alone, with the latencies of their
steps for the time ratio. `score` says how; the calculator never looks at the log and grows its
values step by step.

Results:
* `score_snoc`: folding one more step into the score of the rows so far gives the score of the rows
  with the row of that step.
-/
namespace BuildingEmulation

/-- The value of a signal in a row; zero if the row did not record it. -/
def ResultRow.reading (row : ResultRow Rat) (name : String) : Rat := (row.values.get? name).getD 0

/-- Every row with the instant at which its step began. -/
def intervals (t₀ : Rat) : List (ResultRow Rat) → List (Rat × ResultRow Rat)
  | [] => []
  | row :: rest => (t₀, row) :: intervals row.time rest

/-- The instant that the rows lead to. -/
def lastTime (t₀ : Rat) (rows : List (ResultRow Rat)) : Rat := (rows.getLast?.map (·.time)).getD t₀

theorem lastTime_snoc (t₀ : Rat) (rows : List (ResultRow Rat)) (row : ResultRow Rat) :
    lastTime t₀ (rows ++ [row]) = row.time := by
  rw [lastTime, List.getLast?_concat]; rfl

theorem intervals_snoc (t₀ : Rat) (rows : List (ResultRow Rat)) (row : ResultRow Rat) :
    intervals t₀ (rows ++ [row]) = intervals t₀ rows ++ [(lastTime t₀ rows, row)] := by
  induction rows generalizing t₀ with
  | nil => rfl
  | cons r rest ih =>
    have hl : lastTime t₀ (r :: rest) = lastTime r.time rest := by
      cases rest with
      | nil => rfl
      | cons r' rest =>
        rw [lastTime, lastTime, List.getLast?_cons_cons, List.getLast?_cons]
        rfl
    rw [List.cons_append, intervals, intervals, ih, hl, List.cons_append]

/-- A quantity added up over the steps, which it sees by the instant of their beginning and by
their row. -/
def sumSteps (t₀ : Rat) (rows : List (ResultRow Rat)) (f : Rat → ResultRow Rat → Rat) : Rat :=
  ((intervals t₀ rows).map fun step => f step.1 step.2).sum

theorem sumSteps_snoc (t₀ : Rat) (rows : List (ResultRow Rat)) (row : ResultRow Rat)
    (f : Rat → ResultRow Rat → Rat) :
    sumSteps t₀ (rows ++ [row]) f = sumSteps t₀ rows f + f (lastTime t₀ rows) row := by
  simp only [sumSteps, intervals_snoc, List.map_append, List.sum_append, List.map_cons,
    List.map_nil, List.sum_singleton]

namespace Indicator

variable (k : Indicator Rat)

/-- The magnitudes of the signals in a row, added up. -/
def rate (row : ResultRow Rat) : Rat := (k.signals.map fun s => |row.reading s|).sum

/-- How far the signals in a row lie outside a band, added up. -/
def violations (band : ComfortBand Rat) (row : ResultRow Rat) : Rat :=
  (k.signals.map fun s =>
    max 0 (row.reading s - band.upper) + max 0 (band.lower - row.reading s)).sum

/-- What the rows of a window that began at `t₀` are worth, when their steps took `computed`
seconds. -/
def score (t₀ : Rat) (rows : List (ResultRow Rat)) (computed : Rat) : Rat :=
  match k.rule with
  | .sumRate => sumSteps t₀ rows fun t row => k.rate row * (row.time - t) * k.scale
  | .discomfort band =>
    sumSteps t₀ rows fun t row => k.violations band row * (row.time - t) * k.scale
  | .priced schedule =>
    sumSteps t₀ rows fun t row =>
      k.rate row * schedule.priceAt t * (row.time - t) * k.scale
  | .peak => (rows.map fun row => k.rate row * k.scale).foldl max 0
  | .timeRatio => if rows.isEmpty then 0 else k.scale * computed / (lastTime t₀ rows - t₀)

theorem score_nil (t₀ computed : Rat) : k.score t₀ [] computed = 0 := by
  unfold score
  cases k.rule <;> rfl

/-- The row records what the step observed of the indicator's signals. -/
def Logged (outputs : SignalMap Rat) (row : ResultRow Rat) : Prop :=
  ∀ s ∈ k.signals, ∃ x, outputs.get? s = some x ∧ row.values.get? s = some x

variable {k} {outputs : SignalMap Rat} {row : ResultRow Rat}

/-- What the calculator reads in the outputs stands in the row, signal by signal. -/
theorem readings_eq (h : k.Logged outputs row) :
    k.readings outputs = k.signals.map row.reading := by
  have hs : ∀ s ∈ k.signals, outputs.get? s = some (row.reading s) := by
    intro s hs
    obtain ⟨x, ho, hr⟩ := h s hs
    rw [ho, ResultRow.reading, hr]; rfl
  rw [readings, List.filterMap_congr hs]
  exact congrFun List.filterMap_eq_map _

theorem rateSum_eq (h : k.Logged outputs row) : k.rateSum outputs = k.rate row := by
  rw [rateSum, readings_eq h, sum_exact, rate, List.map_map]
  simp only [Function.comp_def, abs_exact]

theorem violationSum_eq (h : k.Logged outputs row) (band : ComfortBand Rat) :
    k.violationSum band outputs = k.violations band row := by
  have hv : ∀ x : Rat, band.violation x = max 0 (x - band.upper) + max 0 (band.lower - x) := by
    intro x
    rw [ComfortBand.violation, larger_max, larger_max, zero_exact, max_comm, max_comm 0 (_ - x)]
  rw [violationSum, readings_eq h, sum_exact, violations, List.map_map]
  simp only [Function.comp_def, hv]

/-- One more step. The row stands for the sample: its step began where the rows before it lead to,
took as long as it moved the time, and observed what the row records. -/
theorem score_snoc {t₀ computed computed' : Rat} {rows : List (ResultRow Rat)}
    {sample : StepSample Rat} (start : sample.startTime = lastTime t₀ rows)
    (elapsed : sample.elapsed = row.time - lastTime t₀ rows)
    (logged : k.Logged sample.outputs row) (later : t₀ < row.time) :
    k.after (k.score t₀ rows computed) sample computed' (row.time - t₀) =
      k.score t₀ (rows ++ [row]) computed' := by
  unfold after score
  cases k.rule with
  | sumRate =>
    simp only [sumSteps_snoc, rateSum_eq logged, elapsed]
  | discomfort band =>
    simp only [sumSteps_snoc, violationSum_eq logged, elapsed]
  | priced schedule =>
    simp only [sumSteps_snoc, rateSum_eq logged, elapsed, start]
  | peak =>
    simp only [larger_max, rateSum_eq logged, List.map_append, List.foldl_append]
    rfl
  | timeRatio =>
    have hp : 0 < row.time - t₀ := by linarith
    have he : (rows ++ [row]).isEmpty = false := by simp
    simp only [zero_exact, if_pos hp, he, lastTime_snoc]
    change computed' / (row.time - t₀) * k.scale = k.scale * computed' / (row.time - t₀)
    ring

end Indicator

end BuildingEmulation
