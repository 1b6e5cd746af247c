import BuildingEmulation.Session.Error

/-!
# Committed state

What readers of a session see, and the ways in which it changes. A change is computed as a whole:
an advance is planned from the state, and its result is committed together or not at all.

Results:
* `plan_duration`: a plan is for the step that the clock has planned.
* `fail_fields`: a failed advance leaves everything but the lifecycle.
-/
namespace BuildingEmulation

/-- Where a session stands. -/
inductive Lifecycle
  | uninitialized
  | ready
  | scenarioEnded
  /-- The unit may be ahead of the clock; only a reset helps. -/
  | needsReset
  deriving Repr, DecidableEq

namespace Lifecycle

/-- The name of a state in reports. -/
def name : Lifecycle → String
  | uninitialized => "uninitialized"
  | ready => "ready"
  | scenarioEnded => "scenario_ended"
  | needsReset => "needs_reset"

/-- The name of a state in descriptions for people. -/
def title : Lifecycle → String
  | uninitialized => "Uninitialized"
  | ready => "Ready"
  | scenarioEnded => "ScenarioEnded"
  | needsReset => "NeedsReset"

end Lifecycle

/-- Sessions are numbered in the order in which they begin. -/
structure SessionId where
  number : Nat
  deriving Repr, DecidableEq

def SessionId.text (id : SessionId) : String := s!"session-{id.number}"

/-- The state of a session that its calls have agreed on. Mirrors `Committed`. -/
structure Committed (α : Type) where
  lifecycle : Lifecycle
  clock : Clock α
  kpis : KpiCalculator α
  results : ResultsLog α
  /-- The outputs last observed. -/
  measurements : SignalMap α
  id : Option SessionId
  deriving Repr

/-- The answer to an advance. -/
structure AdvanceReport (α : Type) where
  time : α
  outputs : SignalMap α
  kpis : List (String × α)
  endOfScenario : Bool
  deriving Repr

/-- The answer to a reset. -/
structure ResetReport (α : Type) where
  time : α
  outputs : SignalMap α
  id : SessionId
  deriving Repr

/-- What an advance is going to do. -/
structure AdvancePlan (α : Type) where
  inputs : SignalMap α
  startTime : α
  duration : α
  deriving Repr

namespace Committed

variable {α : Type}

/-- The state before the first reset. -/
def fresh [Scalar α] (scenario : Scenario α) (kpis : KpiCalculator α) : Committed α where
  lifecycle := .uninitialized
  clock := .ofScenario scenario
  kpis := kpis
  results := {}
  measurements := .empty
  id := none

/-- The values of all indicators, each name once. -/
def kpiValues [Scalar α] (c : Committed α) : List (String × α) := collapse c.kpis.snapshot

/-! ## Advancing -/

/-- Whether the session may advance. -/
def checkReady (c : Committed α) : Except (SessionError α) Unit :=
  match c.lifecycle with
  | .uninitialized | .needsReset => .error .notReady
  | .scenarioEnded => .error .scenarioEnded
  | .ready => .ok ()

variable [Scalar α]

/-- The inputs, in the order of their names, are ones that the registry takes. -/
def checkInputs (r : Registry α) : List (String × α) → Except (SessionError α) Unit
  | [] => .ok ()
  | (name, x) :: rest => do
    (r.validateInput name x).mapError (SessionError.invalidInput name)
    checkInputs r rest

/-- The plan of an advance with some inputs, unless the session or an input does not allow it.
Mirrors `advance_locked` up to the model call. -/
def plan (c : Committed α) (r : Registry α) (inputs : SignalMap α) :
    Except (SessionError α) (AdvancePlan α) := do
  c.checkReady
  checkInputs r inputs.entries
  pure { inputs, startTime := c.clock.time, duration := c.clock.plan }

/-- The state after the outputs of a planned advance have been observed. Whether the log takes the
row is asked before anything changes, and once more when the row is added. Mirrors `advance_locked`
from the model call on. -/
def commit (c : Committed α) (p : AdvancePlan α) (outputs : SignalMap α) (latency : Nat) :
    Committed α × Except (SessionError α) (AdvanceReport α) :=
  let move := c.clock.preview p.duration
  match c.results.checkNext move.time with
  | .error fault => (c, .error (.commit fault))
  | .ok () =>
    let sample := { startTime := p.startTime, elapsed := move.elapsed, outputs, latency }
    let c := { c with clock := c.clock.advance p.duration, kpis := c.kpis.step sample }
    match c.results.append { time := move.time, values := p.inputs.overwrite outputs } with
    | .error fault => (c, .error (.commit fault))
    | .ok results =>
      let lifecycle := if move.reachedEnd then .scenarioEnded else c.lifecycle
      let c := { c with results, lifecycle, measurements := outputs }
      (c, .ok { time := move.time, outputs, kpis := c.kpiValues, endOfScenario := move.reachedEnd })

omit [Scalar α] in
/-- The state after a failed advance, which may have left the unit inside its call. Mirrors what
`advance_locked` does with a failed model call. -/
def fail (c : Committed α) (inFlight : Bool) : Committed α :=
  if inFlight then { c with lifecycle := .needsReset } else c

/-! ## Resetting -/

/-- The state without anything recorded. Mirrors `clear`. -/
def clear (c : Committed α) : Committed α :=
  { c with kpis := c.kpis.reset, results := c.results.clear, measurements := .empty }

/-- Whether a reset may set this step. -/
def checkStep (step : Option α) : Except (SessionError α) Unit :=
  match step with
  | some step => (Clock.checkStep step).mapError SessionError.invalidStep
  | none => .ok ()

/-- The state at the start of a scored window. Mirrors `reset_locked` from the model call on. -/
def begin (c : Committed α) (step : Option α) (outputs : SignalMap α) (id : SessionId) :
    Except (SessionError α) (Committed α × ResetReport α) := do
  let clock ← (c.clock.reset step).mapError SessionError.invalidStep
  pure ({ c.clear with clock, measurements := outputs, lifecycle := .ready, id := some id },
    { time := clock.time, outputs, id })

/-- The state after a failed reset. Mirrors what `reset_locked` does with a failed model call. -/
def abandon (c : Committed α) : Committed α :=
  { c.clear with clock := c.clock.invalidate, lifecycle := .uninitialized, id := none }

/-- Mirrors `set_step`. -/
def setStep (c : Committed α) (step : α) : Except (SessionError α) (Committed α) := do
  let clock ← (c.clock.setStep step).mapError SessionError.invalidStep
  pure { c with clock }

theorem plan_duration {c : Committed α} {r : Registry α} {inputs : SignalMap α} {p : AdvancePlan α}
    (h : c.plan r inputs = .ok p) :
    p = { inputs, startTime := c.clock.time, duration := c.clock.plan } := by
  unfold plan at h
  cases hr : c.checkReady with
  | error e => rw [hr] at h; cases h
  | ok u =>
    cases hi : checkInputs r inputs.entries with
    | error e => rw [hr, hi] at h; cases h
    | ok v => rw [hr, hi] at h; cases h; rfl

omit [Scalar α] in
theorem fail_fields (c : Committed α) (inFlight : Bool) :
    (c.fail inFlight).clock = c.clock ∧ (c.fail inFlight).kpis = c.kpis ∧
      (c.fail inFlight).results = c.results ∧ (c.fail inFlight).measurements = c.measurements ∧
      (c.fail inFlight).id = c.id := by
  cases inFlight <;> simp [fail]

end Committed

end BuildingEmulation
