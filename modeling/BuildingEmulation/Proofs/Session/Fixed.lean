import BuildingEmulation.Model.Scripted
import BuildingEmulation.Proofs.Kpi.Resolve
import BuildingEmulation.Proofs.Session.Calls
import BuildingEmulation.Scalar.Exact

/-!
# What never changes in a session

A session keeps what it was opened with: its scenario and the window that its clock runs in, its
unit and the registry of the unit's signals, and the resolved indicators.

Results:
* `fixed_inductive`, `fixed_run`: every step of every run keeps it.
* `Sample.opened`: a session over a small unit, to run things on.
-/
namespace BuildingEmulation

variable {α σ : Type} [Scalar α]

namespace KpiCalculator

/-- The indicators without their values. -/
def indicators (c : KpiCalculator α) : List (Indicator α) := c.kpis.map (·.indicator)

@[simp] theorem indicators_step (c : KpiCalculator α) (sample : StepSample α) :
    (c.step sample).indicators = c.indicators := by
  simp [indicators, step, Function.comp_def]

@[simp] theorem indicators_reset (c : KpiCalculator α) : c.reset.indicators = c.indicators := by
  simp [indicators, reset, Function.comp_def]

/-- A calculator starts with the resolved definitions, in order, all at zero. -/
theorem ofSpecs_ok {specs : List (KpiSpec α)} {r : Registry α} {c : KpiCalculator α}
    (h : ofSpecs specs r = .ok c) :
    specs.mapM (KpiSpec.resolve r) = .ok c.indicators ∧ c = c.reset := by
  obtain ⟨indicators, hi, h⟩ := bind_eq_ok h
  cases h
  constructor
  · simpa [KpiCalculator.indicators, Function.comp_def] using hi
  · simp [reset, Function.comp_def]

end KpiCalculator

namespace Session

/-- The session still has what it was opened with. -/
structure Fixed (scenario : Scenario α) (specs : List (KpiSpec α)) (unit : EmulationUnit α σ)
    (s : Session α σ) : Prop where
  scenario_eq : s.scenario = scenario
  unit_eq : s.model.unit = unit
  registry_ok : Registry.ofMetadata unit.metadata = .ok s.model.registry
  start_eq : s.committed.clock.start = scenario.start
  warmupEnd_eq : s.committed.clock.warmupEnd = scenario.warmupEnd
  stop_eq : s.committed.clock.stop = scenario.stop
  indicators_ok : specs.mapM (KpiSpec.resolve s.model.registry) = .ok s.committed.kpis.indicators

/-- What opening a session makes of its parts. -/
theorem start_ok {scenario : Scenario α} {specs : List (KpiSpec α)} {unit : EmulationUnit α σ}
    {state : σ} {s : Session α σ} (h : start scenario specs unit state = .ok s) :
    ∃ registry kpis, Registry.ofMetadata unit.metadata = .ok registry ∧
      KpiCalculator.ofSpecs specs registry = .ok kpis ∧
      s = { scenario, model := { unit, registry }, worker := .idle state
            committed := .fresh scenario kpis, begun := 0, metrics := none } := by
  obtain ⟨model, hm, h⟩ := bind_eq_ok h
  obtain ⟨registry, hr, hm⟩ := bind_eq_ok (mapError_eq_ok hm)
  cases hm
  obtain ⟨kpis, hk, h⟩ := bind_eq_ok h
  cases h
  exact ⟨registry, kpis, hr, mapError_eq_ok hk, rfl⟩

/-- A unit with well-formed metadata that has the outputs of the indicators can be opened. -/
theorem start_of_parts {specs : List (KpiSpec α)} {unit : EmulationUnit α σ}
    {registry : Registry α} {kpis : KpiCalculator α}
    (hr : Registry.ofMetadata unit.metadata = .ok registry)
    (hk : KpiCalculator.ofSpecs specs registry = .ok kpis) (scenario : Scenario α) (state : σ) :
    start scenario specs unit state =
      .ok { scenario, model := { unit, registry }, worker := .idle state
            committed := .fresh scenario kpis, begun := 0, metrics := none } := by
  have hm : (Model.ofUnit unit).mapError OpenFault.registry = .ok { unit, registry } := by
    rw [Model.ofUnit, hr]; rfl
  have hk : (KpiCalculator.ofSpecs specs registry).mapError (OpenFault.kpi (α := α)) = .ok kpis := by
    rw [hk]; rfl
  simp only [start, hm, bind, Except.bind, hk]
  rfl

/-- The parts of a session that has just been opened. -/
theorem Opened.parts {scenario : Scenario α} {specs : List (KpiSpec α)} {unit : EmulationUnit α σ}
    {s : Session α σ} (h : Opened scenario specs unit s) :
    s.scenario = scenario ∧ s.model.unit = unit ∧
      Registry.ofMetadata unit.metadata = .ok s.model.registry ∧ (∃ state, s.worker = .idle state) ∧
      ∃ kpis, KpiCalculator.ofSpecs specs s.model.registry = .ok kpis ∧
        s.committed = .fresh scenario kpis := by
  obtain ⟨state, s₀, hs, rfl | rfl⟩ := h
  all_goals
    obtain ⟨registry, kpis, hr, hk, rfl⟩ := start_ok hs
    exact ⟨rfl, rfl, hr, ⟨state, rfl⟩, kpis, hk, rfl⟩

variable {scenario : Scenario α} {specs : List (KpiSpec α)} {unit : EmulationUnit α σ}

/-- A change of the committed state keeps the window of its clock and its indicators. -/
theorem Change.fixed {s : Session α σ} {e : SessionEvent α} {w : Worker α σ} {c : Committed α}
    (h : Change s e w c) :
    c.clock.start = s.committed.clock.start ∧ c.clock.warmupEnd = s.committed.clock.warmupEnd ∧
      c.clock.stop = s.committed.clock.stop ∧
      c.kpis.indicators = s.committed.kpis.indicators := by
  cases h with
  | failed =>
    obtain ⟨hc, hk, -⟩ := s.committed.fail_fields _
    rw [hc, hk]
    exact ⟨rfl, rfl, rfl, rfl⟩
  | advanced => exact ⟨rfl, rfl, rfl, KpiCalculator.indicators_step _ _⟩
  | resetFailed | begun => exact ⟨rfl, rfl, rfl, KpiCalculator.indicators_reset _⟩
  | _ => exact ⟨rfl, rfl, rfl, rfl⟩

theorem fixed_inductive (scenario : Scenario α) (specs : List (KpiSpec α))
    (unit : EmulationUnit α σ) :
    (lts scenario specs unit).Inductive (Fixed scenario specs unit) where
  init := by
    intro s hs
    obtain ⟨hsc, hu, hr, -, kpis, hk, hc⟩ := hs.parts
    obtain ⟨hi, -⟩ := KpiCalculator.ofSpecs_ok hk
    exact ⟨hsc, hu, hr, by rw [hc]; rfl, by rw [hc]; rfl, by rw [hc]; rfl, by rw [hc]; exact hi⟩
  step := by
    intro s e s' hf hs
    obtain ⟨hsc, hm⟩ := Step.frame hs
    obtain ⟨h₁, h₂, h₃, h₄⟩ := (Step.change hs).fixed
    exact ⟨hsc.trans hf.scenario_eq, hm ▸ hf.unit_eq, hm ▸ hf.registry_ok, h₁.trans hf.start_eq,
      h₂.trans hf.warmupEnd_eq, h₃.trans hf.stop_eq, by rw [hm, h₄]; exact hf.indicators_ok⟩

theorem fixed_run {s₀ s : Session α σ} {ts : List (Transition (Session α σ) (SessionEvent α))}
    (h₀ : (lts scenario specs unit).init s₀) (hr : (lts scenario specs unit).Run s₀ ts s) :
    Fixed scenario specs unit s :=
  (fixed_inductive scenario specs unit).run hr ((fixed_inductive scenario specs unit).init s₀ h₀)

/-- The indicators of a session look at outputs of its unit, and at nothing else. -/
theorem Fixed.known {s : Session α σ} (h : Fixed scenario specs unit s) :
    ∀ k ∈ s.committed.kpis.indicators, ∀ name ∈ k.signals,
      name ∈ s.model.registry.outputs.map (·.name) := by
  intro k hk
  obtain ⟨spec, -, hs⟩ := mem_of_mapM_eq_ok h.indicators_ok k hk
  exact KpiSpec.resolve_outputs h.registry_ok hs

end Session

/-! ## A session to run things on -/

namespace Sample

/-- A tank with a valve and a gauge. -/
def metadata : Metadata Rat where
  overwrite := [{ path := "valve", min := 0, max := 1 }]
  read := [{ path := "level" }]

def registry : Registry Rat where
  inputs := [⟨"valve_u", "", 0, 1, "valve_activate", ""⟩]
  outputs := [⟨"level_y", "", "", []⟩]
  groups := []

/-- Eight seconds to score, in steps of three. -/
def scenario : Scenario Rat where
  name := "tank"
  start := 0
  stop := 10
  warmup := 2
  step := 3
  stepLimit := ⟨5⟩
  initLimit := ⟨7⟩

/-- The level, added up over time. -/
def fill : KpiSpec Rat where
  name := "fill"
  unit := "s"
  kind := .sumRate
  signals := ["level_y"]
  tag := none
  scale := 1
  comfort := none
  schedule := none

/-- The tank with some water in it. -/
def state (script : Script Rat) : ScriptedState Rat :=
  .ofScript script (.ofList [("level_y", 4)]) .empty

/-- The session over a unit with these signals. -/
def session {σ : Type} (unit : EmulationUnit Rat σ) (state : σ) : Session Rat σ where
  scenario := scenario
  model := { unit, registry }
  worker := .idle state
  committed := .fresh scenario
    { kpis := [⟨⟨"fill", "s", .sumRate, ["level_y"], 1⟩, 0⟩], computed := 0, simulated := 0 }
  begun := 0
  metrics := none

theorem accepted :
    scenario.validate.toBool = true ∧ (Registry.ofMetadata metadata).toBool = true := by
  decide +kernel

theorem scenario_valid : scenario.validate = .ok () := by
  obtain ⟨u, h⟩ := eq_ok_of_toBool accepted.1
  exact h

/-- The signals of a tank whose valve has these bounds. -/
theorem signals_eq {α : Type} (min max : α) :
    ({ inputs := [⟨"valve_u", "", min, max, "valve_activate", ""⟩]
       outputs := [⟨"level_y", "", "", []⟩], groups := [] } : Registry α) =
      ⟨[{ path := "valve", min, max }].map Registry.inputOf,
        [{ path := "level" }].map Registry.outputOf, Registry.groupsOf [{ path := "level" }]⟩ := by
  have valve : baseName "valve" = "valve" := by decide +kernel
  have level : baseName "level" = "level" := by decide +kernel
  simp only [List.map_cons, List.map_nil, Registry.inputOf, Registry.outputOf, inputName,
    activationName, outputName, valve, level]
  rfl

theorem registry_ok : Registry.ofMetadata metadata = .ok registry := by
  obtain ⟨r, hr⟩ := eq_ok_of_toBool accepted.2
  rw [hr, Registry.ofMetadata_ok hr]
  exact congrArg _ (signals_eq 0 1).symm

theorem opened {σ : Type} {unit : EmulationUnit Rat σ} (h : unit.metadata = metadata) (state : σ) :
    Session.Opened scenario [fill] unit (session unit state) := by
  have hf : [fill].mapM (KpiSpec.resolve registry) =
      .ok [⟨"fill", "s", .sumRate, ["level_y"], 1⟩] := rfl
  have zero : (0.0 : Rat) = 0 := by decide +kernel
  have hk : KpiCalculator.ofSpecs [fill] registry = .ok (session unit state).committed.kpis := by
    rw [KpiCalculator.ofSpecs, hf, zero]; rfl
  exact ⟨state, _, Session.start_of_parts (h ▸ registry_ok) hk scenario state, .inl rfl⟩

end Sample

end BuildingEmulation
