import BuildingEmulation.Proofs.Session.Client
import BuildingEmulation.Proofs.Session.Fixed

/-!
# Committed states that are the same to a client

Two committed states are alike if they differ in nothing but the number of the session and the time
that was spent on computing, and so in nothing but time ratios for their indicators. Everything that
is done to committed states keeps them alike, however long it takes.

Results:
* `Indicator.after_latency`: of all indicators only time ratios depend on how long steps take.
* `Committed.opened_alike`: windows that begin over one scenario with one step are alike.
* `Committed.Alike.settleAdvance`: and stay so when the same is told of an exchange.
-/
namespace BuildingEmulation

variable {α σ : Type}

/-! ## Indicators -/

/-- The name of an indicator that compares computing time to simulated time. -/
def IsRatio (specs : List (KpiSpec α)) (name : String) : Prop :=
  ∃ spec ∈ specs, spec.kind = .computationalTimeRatio ∧ spec.name = name

theorem KpiSpec.resolve_ratio {r : Registry α} {spec : KpiSpec α} {k : Indicator α}
    (h : spec.resolve r = .ok k) (hr : k.rule = .timeRatio) :
    spec.kind = .computationalTimeRatio ∧ spec.name = k.name := by
  obtain ⟨rule, hrule, h⟩ := bind_eq_ok h
  have hk : k.rule = rule ∧ k.name = spec.name := by
    cases rule with
    | timeRatio => cases h; exact ⟨rfl, rfl⟩
    | _ =>
      obtain ⟨signals, -, h⟩ := bind_eq_ok h
      cases h
      exact ⟨rfl, rfl⟩
  rw [← hk.1, hr] at hrule
  refine ⟨?_, hk.2.symm⟩
  unfold rule? at hrule
  cases hs : spec.kind with
  | computationalTimeRatio => rfl
  | sumRate | peak => rw [hs] at hrule; cases hrule
  | discomfort | priced =>
    simp only [hs] at hrule
    split at hrule <;> cases hrule

variable [Scalar α] {ratio : String → Prop}

/-- The same indicator with the same value, unless it goes by the name of a time ratio. -/
structure KpiState.Alike (ratio : String → Prop) (k k' : KpiState α) : Prop where
  indicator : k'.indicator = k.indicator
  value : k'.value = k.value ∨ ratio k.indicator.name
  named : k.indicator.rule = .timeRatio → ratio k.indicator.name

/-- Nothing but a time ratio depends on how long steps take to compute. -/
theorem Indicator.after_latency {k : Indicator α} (hr : k.rule ≠ .timeRatio) (value : α)
    (sample : StepSample α) (latency : Nat) (computed computed' simulated : α) :
    k.after value { sample with latency } computed' simulated =
      k.after value sample computed simulated := by
  unfold Indicator.after
  cases hk : k.rule with
  | timeRatio => exact absurd hk hr
  | _ => rfl

namespace KpiCalculator

/-- The same indicators over the same simulated time. -/
structure Alike (ratio : String → Prop) (c c' : KpiCalculator α) : Prop where
  kpis : List.Forall₂ (KpiState.Alike ratio) c.kpis c'.kpis
  simulated : c'.simulated = c.simulated

variable {c c' : KpiCalculator α}

theorem Alike.step (h : c.Alike ratio c') (sample : StepSample α) (latency : Nat) :
    (c.step sample).Alike ratio (c'.step { sample with latency }) where
  kpis := by
    refine List.rel_map ?_ h.kpis
    rintro ⟨k, x⟩ ⟨k', y⟩ ⟨hk, hv, hn⟩
    obtain rfl : k' = k := hk
    refine ⟨rfl, ?_, hn⟩
    by_cases hr : k'.rule = .timeRatio
    · exact .inr (hn hr)
    · rcases hv with hv | hv
      · left
        change y = x at hv
        simp only [hv, h.simulated]
        exact Indicator.after_latency hr x sample latency _ _ _
      · exact .inr hv
  simulated := congrArg (· + sample.elapsed) h.simulated

theorem Alike.reset (h : c.Alike ratio c') : c.reset.Alike ratio c'.reset where
  kpis := List.rel_map (fun _ _ hk => ⟨hk.indicator, .inl rfl, hk.named⟩) h.kpis
  simulated := rfl

/-- Calculators with the same indicators are the same before any step. -/
theorem reset_alike (hi : c'.indicators = c.indicators)
    (hn : ∀ k ∈ c.indicators, k.rule = .timeRatio → ratio k.name) :
    c.reset.Alike ratio c'.reset := by
  have fresh (c : KpiCalculator α) : c.reset.kpis = c.indicators.map (⟨·, 0.0⟩) := by
    simp [KpiCalculator.reset, indicators, Function.comp_def]
  refine ⟨?_, rfl⟩
  rw [fresh, fresh, hi, List.forall₂_map_left_iff, List.forall₂_map_right_iff,
    List.forall₂_same]
  exact fun k hk => ⟨rfl, .inl rfl, hn k hk⟩

omit [Scalar α] in
theorem Alike.snapshot (h : c.Alike ratio c') : ValuesAlike ratio c.snapshot c'.snapshot :=
  List.rel_map (fun _ _ hk => ⟨congrArg Indicator.name hk.indicator, hk.value⟩) h.kpis

omit [Scalar α] in
theorem Alike.records (h : c.Alike ratio c') :
    List.Forall₂ (KpiRecord.Alike ratio) c.records c'.records :=
  List.rel_map (fun _ _ hk => ⟨congrArg Indicator.name hk.indicator,
    congrArg Indicator.unit hk.indicator, congrArg Indicator.isCumulative hk.indicator,
    hk.value⟩) h.kpis

end KpiCalculator

/-! ## Committed states -/

namespace Committed

/-- The same state, but for the number of the session and the time spent on computing. -/
structure Alike (ratio : String → Prop) (c c' : Committed α) : Prop where
  lifecycle : c'.lifecycle = c.lifecycle
  clock : c'.clock = c.clock
  kpis : c.kpis.Alike ratio c'.kpis
  results : c'.results = c.results
  measurements : c'.measurements = c.measurements
  begun : c'.id.isSome = c.id.isSome

variable {c c' : Committed α}

theorem Alike.plan (h : c.Alike ratio c') (r : Registry α) (inputs : SignalMap α) :
    c'.plan r inputs = c.plan r inputs := by
  unfold Committed.plan checkReady
  rw [h.lifecycle, h.clock]

theorem Alike.planned (h : c.Alike ratio c') (inputs : SignalMap α) :
    c'.planned inputs = c.planned inputs := by
  unfold Committed.planned
  rw [h.clock]

theorem Alike.move (h : c.Alike ratio c') : c'.move = c.move := by
  unfold Committed.move
  rw [h.clock]

theorem Alike.kpiValues (h : c.Alike ratio c') : ValuesAlike ratio c.kpiValues c'.kpiValues :=
  collapse_alike h.kpis.snapshot

omit [Scalar α] in
theorem Alike.fail (h : c.Alike ratio c') (inFlight : Bool) :
    (c.fail inFlight).Alike ratio (c'.fail inFlight) := by
  cases inFlight with
  | false => exact h
  | true => exact ⟨rfl, h.clock, h.kpis, h.results, h.measurements, h.begun⟩

theorem Alike.abandon (h : c.Alike ratio c') : c.abandon.Alike ratio c'.abandon where
  lifecycle := rfl
  clock := congrArg Clock.invalidate h.clock
  kpis := h.kpis.reset
  results := rfl
  measurements := rfl
  begun := rfl

omit [Scalar α] in
theorem Alike.withStep (h : c.Alike ratio c') (step : α) :
    (c.withStep step).Alike ratio (c'.withStep step) where
  lifecycle := h.lifecycle
  clock := congrArg ({ · with step }) h.clock
  kpis := h.kpis
  results := h.results
  measurements := h.measurements
  begun := h.begun

/-- Windows that begin with the same step over the same scenario are the same. -/
theorem opened_alike {step : Option α} (hs : c'.clock.start = c.clock.start)
    (hw : c'.clock.warmupEnd = c.clock.warmupEnd) (he : c'.clock.stop = c.clock.stop)
    (hstep : step.getD c'.clock.step = step.getD c.clock.step)
    (hk : c.kpis.reset.Alike ratio c'.kpis.reset) (outputs : SignalMap α) (id id' : SessionId) :
    (c.opened step outputs id).Alike ratio (c'.opened step outputs id') where
  lifecycle := rfl
  clock := by
    change Clock.mk c'.clock.warmupEnd (step.getD c'.clock.step) c'.clock.start c'.clock.warmupEnd
      c'.clock.stop true = _
    rw [hs, hw, he, hstep]
    rfl
  kpis := hk
  results := rfl
  measurements := rfl
  begun := rfl

theorem Alike.opened (h : c.Alike ratio c') (step : Option α) (outputs : SignalMap α)
    (id id' : SessionId) : (c.opened step outputs id).Alike ratio (c'.opened step outputs id') :=
  opened_alike (congrArg Clock.start h.clock) (congrArg Clock.warmupEnd h.clock)
    (congrArg Clock.stop h.clock) (by rw [h.clock]) h.kpis.reset outputs id id'

theorem Alike.record (h : c.Alike ratio c') (inputs outputs : SignalMap α) (latency latency' : Nat) :
    (c.record inputs outputs latency).Alike ratio (c'.record inputs outputs latency') where
  lifecycle := by
    change (if c'.move.reachedEnd then _ else c'.lifecycle) = _
    rw [h.move, h.lifecycle]
    rfl
  clock := by
    change c'.clock.advance c'.clock.plan = _
    rw [h.clock]
    rfl
  kpis := by
    have hs : c'.sample outputs latency' =
        { c.sample outputs latency with latency := latency' } := by
      unfold Committed.sample
      rw [h.move, h.clock]
    change (c.kpis.step _).Alike ratio (c'.kpis.step (c'.sample outputs latency'))
    rw [hs]
    exact h.kpis.step _ latency'
  results := by
    change ResultsLog.mk (c'.results.rows.push (c'.nextRow inputs outputs)) = _
    rw [Committed.nextRow, h.results, h.move]
    rfl
  measurements := rfl
  begun := h.begun

theorem Alike.recordReport (h : c.Alike ratio c') (inputs outputs : SignalMap α)
    (latency latency' : Nat) :
    (c.recordReport inputs outputs latency).Alike ratio (c'.recordReport inputs outputs latency') where
  time := congrArg ClockMove.time h.move
  outputs := rfl
  kpis := (h.record inputs outputs latency latency').kpiValues
  endOfScenario := congrArg ClockMove.reachedEnd h.move

/-- What is told of an exchange is entered in the same way. -/
theorem Alike.settleAdvance (h : c.Alike ratio c') (inputs : SignalMap α) (latency latency' : Nat)
    (told : Except (CallFailure α) (SignalMap α)) :
    AnswersAlike (AdvanceReport.Alike ratio) (c.settleAdvance (c.planned inputs) latency told).2
        (c'.settleAdvance (c.planned inputs) latency' told).2 ∧
      (c.settleAdvance (c.planned inputs) latency told).1.Alike ratio
        (c'.settleAdvance (c.planned inputs) latency' told).1 := by
  rw [← h.planned inputs]
  cases told with
  | error failure => exact ⟨rfl, h.fail failure.inFlight⟩
  | ok outputs =>
    simp only [Committed.settleAdvance]
    rw [show c.commit (c'.planned inputs) outputs latency =
      c.commit (c.planned inputs) outputs latency by rw [h.planned]]
    rcases c.commit_cases inputs outputs latency with ⟨fault, hl, hc⟩ | ⟨hl, hc⟩ <;>
      rcases c'.commit_cases inputs outputs latency' with ⟨fault', hl', hc'⟩ | ⟨hl', hc'⟩ <;>
      rw [h.results, h.move, hl] at hl' <;> cases hl' <;> rw [hc, hc']
    · exact ⟨rfl, h⟩
    · exact ⟨h.recordReport inputs outputs latency latency',
        h.record inputs outputs latency latency'⟩

end Committed

end BuildingEmulation
