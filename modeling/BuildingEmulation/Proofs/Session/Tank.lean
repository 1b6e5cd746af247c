import BuildingEmulation.Proofs.Clock.Extended
import BuildingEmulation.Proofs.Session.Fixed

/-!
# A tank in extended arithmetic

The session over a tank, with the same signals and the same scenario, for clients that may send
values that are not finite.

Results:
* `opened`: the session over any unit with these signals is one that has just been opened.
-/
namespace BuildingEmulation.Tank

open Scalar (Extended)

/-- A tank with a valve and a gauge. -/
def metadata : Metadata Extended where
  overwrite := [{ path := "valve", min := .finite 0, max := .finite 1 }]
  read := [{ path := "level" }]

def registry : Registry Extended where
  inputs := [⟨"valve_u", "", .finite 0, .finite 1, "valve_activate", ""⟩]
  outputs := [⟨"level_y", "", "", []⟩]
  groups := []

/-- Eight seconds to score, in steps of three. -/
def scenario : Scenario Extended := Sample.scenario.extended

/-- The level, added up over time. -/
def fill : KpiSpec Extended where
  name := "fill"
  unit := "s"
  kind := .sumRate
  signals := ["level_y"]
  tag := none
  scale := .finite 1
  comfort := none
  schedule := none

/-- The tank with some water in it. -/
def state (script : Script Extended) : ScriptedState Extended :=
  .ofScript script (.ofList [("level_y", .finite 4)]) .empty

/-- The session over a unit with these signals. -/
def session {σ : Type} (unit : EmulationUnit Extended σ) (state : σ) : Session Extended σ where
  scenario := scenario
  model := { unit, registry }
  worker := .idle state
  committed := .fresh scenario
    { kpis := [⟨⟨"fill", "s", .sumRate, ["level_y"], .finite 1⟩, .finite 0⟩]
      computed := .finite 0, simulated := .finite 0 }
  begun := 0
  metrics := none

theorem accepted :
    scenario.validate.toBool = true ∧ (Registry.ofMetadata metadata).toBool = true := by
  decide +kernel

theorem scenario_valid : scenario.validate = .ok () := by
  obtain ⟨u, h⟩ := eq_ok_of_toBool accepted.1
  exact h

theorem registry_ok : Registry.ofMetadata metadata = .ok registry := by
  obtain ⟨r, hr⟩ := eq_ok_of_toBool accepted.2
  rw [hr, Registry.ofMetadata_ok hr]
  exact congrArg _ (Sample.signals_eq _ _).symm

theorem opened {σ : Type} {unit : EmulationUnit Extended σ} (h : unit.metadata = metadata)
    (state : σ) : Session.Opened scenario [fill] unit (session unit state) := by
  have hf : [fill].mapM (KpiSpec.resolve registry) =
      .ok [⟨"fill", "s", .sumRate, ["level_y"], .finite 1⟩] := rfl
  have hk : KpiCalculator.ofSpecs [fill] registry = .ok (session unit state).committed.kpis := by
    rw [KpiCalculator.ofSpecs, hf, Extended.zero_finite]; rfl
  exact ⟨state, _, Session.start_of_parts (h ▸ registry_ok) hk scenario state, .inl rfl⟩

end BuildingEmulation.Tank
