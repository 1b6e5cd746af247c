import BuildingEmulation.Proofs.Kpi.Growth
import BuildingEmulation.Proofs.Session.Scores

/-!
# Indicators that only grow, along a run

Time goes forward in every committed step, and a scale is positive if its definition is valid. So a
step lowers none of the indicators that can only grow; a call that fails or is refused leaves all of
them alone, and only a reset that has reached the unit puts them back to zero.

Results:
* `Step.indicators`: a call starts the indicators over, or none that can only grow is worth less.
* `atLeast_run`: nor is one after any calls in between two resets.
* `records_grow`: what is reported of them is never negative and never goes down.
-/
namespace BuildingEmulation

variable {σ : Type}

/-- A price is charged by the definition, and it is nowhere negative. -/
def KpiSpec.PricedNonNegative (k : KpiSpec Rat) : Prop :=
  k.kind = .priced ∧ ∃ schedule, k.schedule = some schedule ∧ schedule.NonNegative

/-- What a definition that can only grow has to show at one moment and at a later one. -/
structure KpiSpec.Grown (k : KpiSpec Rat) (before after : KpiRecord Rat) : Prop where
  named : before.name = k.name ∧ after.name = k.name
  flagged : before.cumulative = after.cumulative
  kinds : before.cumulative = true ↔ k.kind = .sumRate ∨ k.kind = .discomfort ∨ k.kind = .peak
  grown : before.cumulative = true ∨ k.PricedNonNegative → 0 ≤ before.value ∧ before.value ≤ after.value

namespace Session

variable {scenario : Scenario Rat} {specs : List (KpiSpec Rat)} {unit : EmulationUnit Rat σ}
  {s₀ s s' : Session Rat σ} {ts ts' : List (Transition (Session Rat σ) (SessionEvent Rat))}

/-- What a call does to the indicators. -/
theorem Step.indicators {signals : List OutputSignal} {latencies : List Nat} {e : SessionEvent Rat}
    (scales : ∀ k ∈ s.committed.kpis.kpis, 0 ≤ k.indicator.scale)
    (tracked : s.committed.Tracked scenario.warmupEnd signals latencies) (h : s.Step e s') :
    (e.restarts = false ∧ s.committed.kpis.AtLeast s'.committed.kpis) ∨
      (e.restarts = true ∧ s'.committed.kpis = s.committed.kpis.reset) := by
  have hc := h.change
  generalize s'.worker = w at hc
  generalize s'.committed = c at hc
  cases hc with
  | refused | uncommitted | resetRefused | stepRefused | stepSet | released =>
    exact .inl ⟨rfl, .rfl _⟩
  | failed =>
    obtain ⟨-, hkpis, -⟩ := s.committed.fail_fields _
    rw [hkpis]
    exact .inl ⟨rfl, .rfl _⟩
  | @advanced latency _ _ outputs ready =>
    have running : s.committed.clock.Running := ⟨tracked.before ready, tracked.step_pos⟩
    have later : s.committed.clock.time < s.committed.move.time := running.preview_later
    have elapsed : s.committed.move.elapsed = s.committed.move.time - s.committed.clock.time :=
      s.committed.clock.preview_elapsed _
    have forward : 0 ≤ (s.committed.sample outputs latency).elapsed := by
      change 0 ≤ s.committed.move.elapsed
      linarith
    exact .inl ⟨rfl, KpiCalculator.atLeast_step forward scales⟩
  | resetFailed | begun => exact .inr ⟨rfl, rfl⟩

/-- The scales of valid definitions are those that the indicators multiply with. -/
theorem Fixed.scales (hf : Fixed scenario specs unit s)
    (valid : ∀ spec ∈ specs, spec.validate = .ok ()) :
    ∀ k ∈ s.committed.kpis.kpis, 0 ≤ k.indicator.scale := by
  intro k hk
  obtain ⟨spec, hspec, hresolve⟩ :=
    mem_of_mapM_eq_ok hf.indicators_ok k.indicator (List.mem_map_of_mem hk)
  obtain ⟨-, -, -, hscale⟩ := KpiSpec.resolve_parts hresolve
  have positive : 0 < spec.scale := KpiSpec.validate_scale (valid spec hspec)
  rw [hscale]
  exact positive.le

/-- Between two resets nothing that can only grow loses any of its worth. -/
theorem atLeast_run (hv : scenario.Window) (valid : ∀ spec ∈ specs, spec.validate = .ok ())
    (h₀ : (lts scenario specs unit).init s₀) (hr : (lts scenario specs unit).Run s₀ ts s)
    (hr' : (lts scenario specs unit).Run s ts' s')
    (stays : ∀ t ∈ ts', t.label.restarts = false) : s.committed.kpis.AtLeast s'.committed.kpis := by
  induction hr' with
  | nil => exact .rfl _
  | @snoc ts' s₁ e s₂ run step ih =>
    obtain ⟨hf, tracked⟩ := tracked_run hv h₀ (hr.append run)
    have before := ih fun t ht => stays t (List.mem_append_left _ ht)
    have stays := stays ⟨s₁, e, s₂⟩ (by simp)
    rcases Step.indicators (hf.scales valid) tracked step with ⟨-, after⟩ | ⟨restarts, -⟩
    · exact before.trans after
    · rw [restarts] at stays
      cases stays

/-- All indicators start at zero, so those that can only grow are never below it. -/
theorem values_nonneg (hv : scenario.Window) (valid : ∀ spec ∈ specs, spec.validate = .ok ())
    (h₀ : (lts scenario specs unit).init s₀) (hr : (lts scenario specs unit).Run s₀ ts s) :
    ∀ k ∈ s.committed.kpis.kpis, k.indicator.Grows → 0 ≤ k.value := by
  induction hr with
  | nil =>
    obtain ⟨-, -, -, -, kpis, hk, hc⟩ := Opened.parts h₀
    obtain ⟨-, hz⟩ := KpiCalculator.ofSpecs_ok hk
    intro k hm _
    rw [hc] at hm
    change k ∈ kpis.kpis at hm
    rw [hz] at hm
    exact (KpiCalculator.value_reset hm).ge
  | @snoc ts s₁ e s₂ run step ih =>
    obtain ⟨hf, tracked⟩ := tracked_run hv h₀ run
    intro k' hm grows
    rcases Step.indicators (hf.scales valid) tracked step with ⟨-, after⟩ | ⟨-, hreset⟩
    · obtain ⟨k, hk, same, hle⟩ := after.of_mem hm
      rw [same] at grows
      have hk₀ := ih k hk grows
      have hkk := hle grows
      linarith
    · rw [hreset] at hm
      exact (KpiCalculator.value_reset hm).ge

/-- There is one record for each definition. What is flagged as cumulative is never negative and
does not go down before the next reset; neither does what is charged at prices that are nowhere
negative. -/
theorem records_grow (hv : scenario.validate = .ok ())
    (valid : ∀ spec ∈ specs, spec.validate = .ok ())
    (h₀ : (lts scenario specs unit).init s₀) (hr : (lts scenario specs unit).Run s₀ ts s)
    (hr' : (lts scenario specs unit).Run s ts' s')
    (stays : ∀ t ∈ ts', t.label.restarts = false) :
    s.kpiRecords.length = specs.length ∧ s'.kpiRecords.length = specs.length ∧
      ∀ (i : Nat) (spec : KpiSpec Rat) (before after : KpiRecord Rat), specs[i]? = some spec →
        s.kpiRecords[i]? = some before → s'.kpiRecords[i]? = some after →
        spec.Grown before after := by
  have window := Scenario.validate_window hv
  obtain ⟨hf, -⟩ := tracked_run window h₀ hr
  have atLeast := atLeast_run window valid h₀ hr hr' stays
  have nonneg := values_nonneg window valid h₀ hr
  have hlength : s.committed.kpis.kpis.length = specs.length := by
    rw [← length_of_mapM_eq_ok hf.indicators_ok, KpiCalculator.indicators, List.length_map]
  refine ⟨?_, ?_, ?_⟩
  · simp [kpiRecords, KpiCalculator.records, hlength]
  · simp [kpiRecords, KpiCalculator.records, ← List.Forall₂.length_eq atLeast, hlength]
  intro i spec before after hspec hbefore hafter
  obtain ⟨k, hk, rfl⟩ := KpiCalculator.state_of_record hbefore
  obtain ⟨k', hk', rfl⟩ := KpiCalculator.state_of_record hafter
  obtain ⟨same, hle⟩ := atLeast.at hk hk'
  obtain ⟨indicator, hindicator, hresolve⟩ := getElem?_of_mapM_eq_ok hf.indicators_ok hspec
  have hki : k.indicator = indicator := by
    rw [KpiCalculator.indicators, List.getElem?_map, hk] at hindicator
    exact Option.some.inj hindicator
  rw [← hki] at hresolve
  obtain ⟨-, hname, -, -⟩ := KpiSpec.resolve_parts hresolve
  refine ⟨⟨hname, ?_⟩, ?_, KpiSpec.resolve_isCumulative hresolve, ?_⟩
  · simp only [same, hname]
  · simp only [same]
  · intro how
    have grows : k.indicator.Grows := by
      rcases how with flagged | ⟨priced, schedule, hschedule, prices⟩
      · exact Indicator.grows_of_isCumulative flagged
      · exact KpiSpec.resolve_priced hresolve priced hschedule prices
    exact ⟨nonneg k (List.mem_of_getElem? hk) grows, hle grows⟩

/-- A tank is filled for three seconds and then, after a step that is not taken and a reset that is
refused, for another three. -/
theorem records_grow_tank :
    ∃ (s₀ s s' : Session Rat (ScriptedState Rat))
      (ts ts' : List (Transition (Session Rat (ScriptedState Rat)) (SessionEvent Rat))),
      Sample.scenario.validate = .ok () ∧ Sample.fill.validate = .ok () ∧
      (lts Sample.scenario [Sample.fill] (scriptedUnit Sample.metadata)).init s₀ ∧
      (lts Sample.scenario [Sample.fill] (scriptedUnit Sample.metadata)).Run s₀ ts s ∧
      (lts Sample.scenario [Sample.fill] (scriptedUnit Sample.metadata)).Run s ts' s' ∧
      (∀ t ∈ ts', t.label.restarts = false) ∧ s.kpiRecords.map (·.value) = [21] ∧
      s'.kpiRecords.map (·.value) = [51] ∧ s'.kpiRecords.length = 1 ∧
      ∀ before ∈ s.kpiRecords[0]?, ∀ after ∈ s'.kpiRecords[0]?, Sample.fill.Grown before after := by
  let s₀ := Sample.session (scriptedUnit Sample.metadata)
    (Sample.state { rates := .ofList [("level_y", 1)] })
  let s := ((s₀.reset none).1.advance 5 .empty).1
  let M := lts Sample.scenario [Sample.fill] (scriptedUnit Sample.metadata)
  have h₀ : M.init s₀ := Sample.opened rfl _
  have hr : M.Run s₀ _ s := (LTS.Run.nil.snoc (step_reset s₀ none)).snoc (step_advance _ 5 .empty)
  have hr' : M.Run s _ _ := ((LTS.Run.nil.snoc (step_setStep s 0)).snoc
    (step_advance _ 5 .empty)).snoc (step_reset _ (some 0))
  have fill_valid : Sample.fill.validate = .ok () := by
    obtain ⟨u, h⟩ := eq_ok_of_toBool
      (show Sample.fill.validate.toBool = true by decide +kernel)
    exact h
  have valid : ∀ spec ∈ [Sample.fill], spec.validate = .ok () := by simpa using fill_valid
  obtain ⟨-, hlength, hgrown⟩ :=
    records_grow Sample.scenario_valid valid h₀ hr hr' (by decide +kernel)
  exact ⟨s₀, s, _, _, _, Sample.scenario_valid, fill_valid, h₀, hr, hr', by decide +kernel,
    by decide +kernel, by decide +kernel, hlength, fun before hb after ha => hgrown 0 Sample.fill before after rfl hb ha⟩

end Session

end BuildingEmulation
