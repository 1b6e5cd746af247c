import BuildingEmulation.Scenario

/-!
# Simulation clock

The committed time of a session. A step never goes past the end of the scenario, and one that
comes within the time tolerance of the end lands on it.
-/
namespace BuildingEmulation

/-- The clock of a scenario. Mirrors `SimulationClock`. -/
structure Clock (α : Type) where
  time : α
  step : α
  start : α
  warmupEnd : α
  stop : α
  initialized : Bool
  deriving Repr, BEq

/-- A move of the clock. Mirrors `ClockAdvance`. -/
structure ClockMove (α : Type) where
  time : α
  elapsed : α
  reachedEnd : Bool
  deriving Repr, BEq

/-- A step that is not finite and positive. -/
inductive ClockFault (α : Type)
  | invalidStep (step : α)
  deriving Repr

def ClockFault.message {α : Type} [Decimal.Numeral α] : ClockFault α → String
  | invalidStep step => s!"step size must be finite and positive, got {Decimal.plain step}"

namespace Clock

variable {α : Type} [Scalar α]

/-- The clock before the first reset. -/
def ofScenario (s : Scenario α) : Clock α where
  time := s.start
  step := s.step
  start := s.start
  warmupEnd := s.warmupEnd
  stop := s.stop
  initialized := false

/-- Mirrors `check_step`. -/
def checkStep (step : α) : Except (ClockFault α) Unit :=
  if Scalar.isFinite step && decide (0.0 < step) then .ok () else .error (.invalidStep step)

/-- Mirrors `set_step`. -/
def setStep (c : Clock α) (step : α) : Except (ClockFault α) (Clock α) := do
  checkStep step
  pure { c with step := step }

/-- The clock at the start of the scored window, with a new step if one is given. Mirrors `reset`. -/
def reset (c : Clock α) (step : Option α) : Except (ClockFault α) (Clock α) := do
  let c ← match step with
    | some step => c.setStep step
    | none => pure c
  pure { c with time := c.warmupEnd, initialized := true }

/-- The clock as it was before the first reset, with its present step. Mirrors `invalidate`. -/
def invalidate (c : Clock α) : Clock α := { c with time := c.start, initialized := false }

/-- How long the next step is: the step in force, or what is left of the scenario. Mirrors
`plan_step`. -/
def plan (c : Clock α) : α := Scalar.larger (Scalar.smaller c.step (c.stop - c.time)) 0.0

/-- Where a step of a duration would lead. Mirrors `preview`. -/
def preview (c : Clock α) (duration : α) : ClockMove α :=
  let target := c.time + duration
  if c.stop - Calendar.timeTolerance ≤ target then
    { time := c.stop, elapsed := c.stop - c.time, reachedEnd := true }
  else { time := target, elapsed := duration, reachedEnd := false }

/-- The clock after a step of a duration. Mirrors `advance_by`. -/
def advance (c : Clock α) (duration : α) : Clock α := { c with time := (c.preview duration).time }

end Clock

end BuildingEmulation
