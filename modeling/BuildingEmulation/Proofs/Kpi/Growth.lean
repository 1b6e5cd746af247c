import BuildingEmulation.Proofs.Except
import BuildingEmulation.Proofs.Exact
import Mathlib.Data.List.Forall2
import Mathlib.Algebra.Order.BigOperators.Group.List

/-!
# Indicators that only grow

What a step adds to a sum of magnitudes, to a sum of violations or to a sum of prices that are
nowhere negative is not negative, and a maximum only rises, whatever was measured. All that is asked
for is that the step did not take less than no time and that the scale is not negative.

Results:
* `Indicator.le_after`: a step does not lower such an indicator.
* `KpiCalculator.atLeast_step`: nor any of those in a calculator.
* `KpiSpec.resolve_parts`: the scale and the rule are those of the definition.
-/
namespace BuildingEmulation

/-! ## What a step adds -/

/-- No price of the schedule is negative. -/
structure PriceSchedule.NonNegative (schedule : PriceSchedule Rat) : Prop where
  base : 0 ≤ schedule.base
  periods : ∀ period ∈ schedule.periods, 0 ≤ period.price

theorem PriceSchedule.NonNegative.priceAt {schedule : PriceSchedule Rat} (h : schedule.NonNegative)
    (seconds : Rat) : 0 ≤ schedule.priceAt seconds := by
  unfold PriceSchedule.priceAt priceIn
  split
  · next period hfound => exact h.periods period (List.mem_of_find?_eq_some hfound)
  · exact h.base

theorem ComfortBand.violation_nonneg (band : ComfortBand Rat) (measured : Rat) :
    0 ≤ band.violation measured := by
  unfold violation
  rw [larger_max, larger_max, zero_exact]
  have hupper : 0 ≤ max (measured - band.upper) 0 := le_max_right _ _
  have hlower : 0 ≤ max (band.lower - measured) 0 := le_max_right _ _
  linarith

namespace Indicator

variable (k : Indicator Rat) {sample : StepSample Rat}

theorem rateSum_nonneg (outputs : SignalMap Rat) : 0 ≤ k.rateSum outputs := by
  unfold rateSum
  rw [sum_exact]
  apply List.sum_nonneg
  intro x hx
  obtain ⟨y, -, rfl⟩ := List.mem_map.1 hx
  rw [abs_exact]
  exact abs_nonneg y

theorem violationSum_nonneg (band : ComfortBand Rat) (outputs : SignalMap Rat) :
    0 ≤ k.violationSum band outputs := by
  unfold violationSum
  rw [sum_exact]
  apply List.sum_nonneg
  intro x hx
  obtain ⟨y, -, rfl⟩ := List.mem_map.1 hx
  exact band.violation_nonneg y

/-- The indicator goes by a rule under which it can only grow. -/
def Grows (k : Indicator Rat) : Prop :=
  match k.rule with
  | .priced schedule => schedule.NonNegative
  | .timeRatio => False
  | _ => True

variable {k}

theorem grows_of_isCumulative (h : k.isCumulative = true) : k.Grows := by
  unfold isCumulative at h
  unfold Grows
  cases hr : k.rule <;> simp_all

theorem le_after (grows : k.Grows) (scale : 0 ≤ k.scale) (elapsed : 0 ≤ sample.elapsed)
    (value computed simulated : Rat) : value ≤ k.after value sample computed simulated := by
  have rate : 0 ≤ k.rateSum sample.outputs := k.rateSum_nonneg sample.outputs
  unfold Grows at grows
  unfold after
  cases hr : k.rule with
  | sumRate =>
    have added : 0 ≤ k.rateSum sample.outputs * sample.elapsed * k.scale := by positivity
    simp only
    linarith
  | discomfort band =>
    have violations := k.violationSum_nonneg band sample.outputs
    have added : 0 ≤ k.violationSum band sample.outputs * sample.elapsed * k.scale := by positivity
    simp only
    linarith
  | priced schedule =>
    rw [hr] at grows
    have price := grows.priceAt sample.startTime
    have added : 0 ≤ k.rateSum sample.outputs * schedule.priceAt sample.startTime *
        sample.elapsed * k.scale := by positivity
    simp only
    linarith
  | peak =>
    simp only
    rw [larger_max]
    exact le_max_left _ _
  | timeRatio => rw [hr] at grows; exact grows.elim

end Indicator

/-! ## Calculators -/

namespace KpiCalculator

/-- The same indicators, and none of those that can only grow is worth less in the second. -/
def AtLeast (c c' : KpiCalculator Rat) : Prop :=
  List.Forall₂
    (fun k k' => k'.indicator = k.indicator ∧ (k.indicator.Grows → k.value ≤ k'.value)) c.kpis c'.kpis

variable {c c' c'' : KpiCalculator Rat}

theorem AtLeast.rfl (c : KpiCalculator Rat) : c.AtLeast c := by
  unfold AtLeast
  rw [List.forall₂_same]
  intro k _
  exact ⟨Eq.refl _, fun _ => le_rfl⟩

theorem AtLeast.trans (h : c.AtLeast c') (h' : c'.AtLeast c'') : c.AtLeast c'' := by
  unfold AtLeast at h h' ⊢
  generalize c.kpis = ks, c'.kpis = ks', c''.kpis = ks'' at h h' ⊢
  induction h generalizing ks'' with
  | nil => cases h'; exact .nil
  | cons hk _ ih =>
    cases h' with
    | cons hk' rest =>
      refine .cons ⟨hk'.1.trans hk.1, fun grows => ?_⟩ (ih _ rest)
      have hle := hk.2 grows
      have hle' := hk'.2 (hk.1 ▸ grows)
      linarith

theorem atLeast_step {sample : StepSample Rat} (elapsed : 0 ≤ sample.elapsed)
    (scales : ∀ k ∈ c.kpis, 0 ≤ k.indicator.scale) : c.AtLeast (c.step sample) := by
  unfold AtLeast step
  rw [List.forall₂_map_right_iff, List.forall₂_same]
  intro k hk
  refine ⟨Eq.refl _, fun grows => ?_⟩
  exact Indicator.le_after grows (scales k hk) elapsed k.value _ _

theorem AtLeast.at (h : c.AtLeast c') {i : Nat} {k k' : KpiState Rat} (hk : c.kpis[i]? = some k)
    (hk' : c'.kpis[i]? = some k') :
    k'.indicator = k.indicator ∧ (k.indicator.Grows → k.value ≤ k'.value) := by
  obtain ⟨hi, rfl⟩ := List.getElem?_eq_some_iff.1 hk
  obtain ⟨hi', rfl⟩ := List.getElem?_eq_some_iff.1 hk'
  exact (List.forall₂_iff_get.1 h).2 i hi hi'

theorem AtLeast.of_mem (h : c.AtLeast c') {k' : KpiState Rat} (hm : k' ∈ c'.kpis) :
    ∃ k ∈ c.kpis, k'.indicator = k.indicator ∧ (k.indicator.Grows → k.value ≤ k'.value) := by
  obtain ⟨i, hi, rfl⟩ := List.getElem_of_mem hm
  have hi₀ : i < c.kpis.length := by
    have hlength := List.Forall₂.length_eq h
    omega
  have hk : c.kpis[i]? = some c.kpis[i] := List.getElem?_eq_getElem hi₀
  exact ⟨_, List.getElem_mem hi₀, h.at hk (List.getElem?_eq_getElem hi)⟩

theorem value_reset {k : KpiState Rat} (hm : k ∈ c.reset.kpis) : k.value = 0 := by
  obtain ⟨k', -, rfl⟩ := List.mem_map.1 hm
  exact zero_exact

/-- A record is that of the indicator in its place. -/
theorem state_of_record {i : Nat} {r : KpiRecord Rat} (h : c.records[i]? = some r) :
    ∃ k, c.kpis[i]? = some k ∧
      r = ⟨k.indicator.name, k.indicator.unit, k.value, k.indicator.isCumulative⟩ := by
  unfold records at h
  rw [List.getElem?_map] at h
  obtain ⟨k, hk, rfl⟩ := Option.map_eq_some_iff.1 h
  exact ⟨k, hk, Eq.refl _⟩

end KpiCalculator

/-! ## Definitions -/

namespace KpiSpec

theorem validate_scale {k : KpiSpec Rat} (h : k.validate = .ok ()) : 0 < k.scale := by
  unfold validate at h
  split at h
  · cases h
  · split at h
    · cases h
    · next hs =>
      simp only [Bool.or_eq_true, decide_eq_true_eq, not_or, zero_exact] at hs
      exact not_le.1 hs.2

/-- What an indicator takes over from its definition. -/
theorem resolve_parts {α : Type} [Scalar α] {k : KpiSpec α} {r : Registry α} {i : Indicator α}
    (h : k.resolve r = .ok i) :
    k.rule? = .ok i.rule ∧ i.name = k.name ∧ i.unit = k.unit ∧ i.scale = k.scale := by
  obtain ⟨rule, hrule, h⟩ := bind_eq_ok h
  cases rule with
  | timeRatio => cases h; exact ⟨hrule, rfl, rfl, rfl⟩
  | _ =>
    obtain ⟨signals, -, h⟩ := bind_eq_ok h
    cases h
    exact ⟨hrule, rfl, rfl, rfl⟩

/-- An indicator is reported to be cumulative by the kind of its definition. -/
theorem resolve_isCumulative {α : Type} [Scalar α] {k : KpiSpec α} {r : Registry α}
    {i : Indicator α} (h : k.resolve r = .ok i) :
    i.isCumulative = true ↔ k.kind = .sumRate ∨ k.kind = .discomfort ∨ k.kind = .peak := by
  obtain ⟨hrule, -⟩ := resolve_parts h
  unfold rule? at hrule
  unfold Indicator.isCumulative
  cases hk : k.kind with
  | sumRate | peak | computationalTimeRatio =>
    simp only [hk] at hrule
    rw [← Except.ok.inj hrule]
    simp
  | discomfort | priced =>
    simp only [hk] at hrule
    split at hrule
    · rw [← Except.ok.inj hrule]
      simp
    · cases hrule

theorem resolve_priced {k : KpiSpec Rat} {r : Registry Rat} {i : Indicator Rat}
    {schedule : PriceSchedule Rat} (h : k.resolve r = .ok i) (priced : k.kind = .priced)
    (hs : k.schedule = some schedule) (prices : schedule.NonNegative) : i.Grows := by
  obtain ⟨hrule, -⟩ := resolve_parts h
  unfold rule? at hrule
  simp only [priced, hs] at hrule
  unfold Indicator.Grows
  rw [← Except.ok.inj hrule]
  exact prices

end KpiSpec

end BuildingEmulation
