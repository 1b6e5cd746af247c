import BuildingEmulation.Calendar
import BuildingEmulation.TimeLimit
import BuildingEmulation.Text.Blank

/-!
# Scenarios

The window of simulation time that a session covers: it starts with a warm-up that is not scored,
and is then walked through in steps.
-/
namespace BuildingEmulation

/-- Times are seconds of simulation time. Mirrors `ScenarioConfig`. -/
structure Scenario (α : Type) where
  name : String
  start : α
  stop : α
  warmup : α
  step : α
  stepLimit : TimeLimit
  initLimit : TimeLimit
  deriving Repr, BEq

/-- What makes a scenario unusable. -/
inductive ScenarioFault (α : Type)
  | blankName
  | notFinite (label : String)
  | negativeWarmup
  | stopsInWarmup (stop warmupEnd : α)
  | stepNotPositive (step : α)
  | zeroLimit
  deriving Repr

def ScenarioFault.message {α : Type} [Decimal.Numeral α] : ScenarioFault α → String
  | blankName => "scenario name must not be empty"
  | notFinite label => s!"scenario {label} must be finite"
  | negativeWarmup => "scenario warmup_period must not be negative"
  | stopsInWarmup stop warmupEnd =>
    s!"scenario end_time ({Decimal.plain stop}) must lie after the warmup end ({Decimal.plain warmupEnd})"
  | stepNotPositive step => s!"scenario step must be positive, got {Decimal.plain step}"
  | zeroLimit => "scenario timeouts must be non-zero"

namespace Scenario

variable {α : Type} [Scalar α]

/-- A week from the start of the year in steps of an hour, without warm-up. -/
def default : Scenario α where
  name := "simple_rc"
  start := 0.0
  stop := 7.0 * Calendar.secondsPerDay
  warmup := 0.0
  step := Calendar.secondsPerHour
  stepLimit := .ofSeconds 30
  initLimit := .ofSeconds 300

/-- The instant at which the scored window begins. Mirrors `warmup_end`. -/
def warmupEnd (s : Scenario α) : α := s.start + s.warmup

/-- The labelled times of a scenario, in the order in which they are checked. -/
def times (s : Scenario α) : List (String × α) :=
  [("start_time", s.start), ("end_time", s.stop), ("warmup_period", s.warmup), ("step", s.step)]

/-- A name, finite times, a warm-up that ends before the scenario does, a positive step and limits.
Mirrors `validate`. -/
def validate (s : Scenario α) : Except (ScenarioFault α) Unit :=
  if Text.isBlankText s.name then .error .blankName
  else match s.times.find? (fun (_, x) => !Scalar.isFinite x) with
    | some (label, _) => .error (.notFinite label)
    | none =>
      if s.warmup < 0.0 then .error .negativeWarmup
      else if s.stop ≤ s.warmupEnd then .error (.stopsInWarmup s.stop s.warmupEnd)
      else if s.step ≤ 0.0 then .error (.stepNotPositive s.step)
      else if s.stepLimit.milliseconds = 0 || s.initLimit.milliseconds = 0 then .error .zeroLimit
      else .ok ()

end Scenario

end BuildingEmulation
