import BuildingEmulation.Session.Committed
import BuildingEmulation.Session.Worker

/-!
# Sessions

A session drives one model through one scenario. Its calls come one at a time: a reset starts the
model over, an advance exchanges inputs and outputs for one step and commits the result, and a
client may change the step in between.

Results:
* `reset_rejected`: a reset with an invalid step touches nothing but its own count.
* `advance_rejected`: neither does an advance that cannot be planned.
-/
namespace BuildingEmulation

/-- What makes it impossible to open a session. -/
inductive OpenFault (α : Type)
  | registry (fault : RegistryFault α)
  | kpi (fault : ResolveFault)
  deriving Repr

def OpenFault.message {α : Type} [Decimal.Numeral α] : OpenFault α → String
  | registry fault => s!"model metadata is invalid: {fault.message}"
  | kpi fault => s!"kpi definitions are invalid: {fault.message}"

/-- A session over a unit with states `σ`. Mirrors `SessionManager`. -/
structure Session (α σ : Type) where
  scenario : Scenario α
  model : Model α σ
  worker : Worker α σ
  committed : Committed α
  /-- How many sessions have begun. -/
  begun : Nat
  metrics : Option (Metrics.SessionMetrics α)

/-- A description of a session's present state. -/
structure SessionStatus (α : Type) where
  name : String
  lifecycle : Lifecycle
  id : Option SessionId
  clock : Clock α
  resultRows : Nat
  deriving Repr

namespace Committed

variable {α : Type} [Scalar α]

/-- What follows an exchange: its outputs are committed, or its failure is noted. -/
def settleAdvance (c : Committed α) (p : AdvancePlan α) (latency : Nat)
    (answer : Except (CallFailure α) (SignalMap α)) :
    Committed α × Except (SessionError α) (AdvanceReport α) :=
  match answer with
  | .error failure => (c.fail failure.inFlight, .error (.modelStep failure.error))
  | .ok outputs => c.commit p outputs latency

/-- What follows a warm-up: a scored window begins, or nothing is left. -/
def settleReset (c : Committed α) (step : Option α) (id : SessionId)
    (answer : Except (CallFailure α) (SignalMap α)) :
    Committed α × Except (SessionError α) (ResetReport α) :=
  match answer with
  | .error failure => (c.abandon, .error (.reset failure.error))
  | .ok outputs =>
    match c.begin step outputs id with
    | .error e => (c, .error e)
    | .ok (c, report) => (c, .ok report)

end Committed

/-- How many sessions have begun after a reset. -/
def begunAfter {α : Type} (begun : Nat) : Except (SessionError α) (ResetReport α) → Nat
  | .ok _ => begun + 1
  | .error _ => begun

namespace Session

variable {α σ : Type}

section

variable [Scalar α]

/-- A session over a unit in some state, once its signals and indicators have been checked. Mirrors
`new`. -/
def start (scenario : Scenario α) (kpis : List (KpiSpec α)) (unit : EmulationUnit α σ) (state : σ) :
    Except (OpenFault α) (Session α σ) := do
  let model ← (Model.ofUnit unit).mapError OpenFault.registry
  let kpis ← (KpiCalculator.ofSpecs kpis model.registry).mapError OpenFault.kpi
  pure { scenario, model, worker := .idle state, committed := .fresh scenario kpis, begun := 0
         metrics := none }

/-- The session with fresh metrics attached. Mirrors `with_metrics`. -/
def withMetrics (s : Session α σ) : Session α σ := { s with metrics := some .fresh }

omit [Scalar α] in
/-- The session with its metrics changed, if it has any. -/
def measure (s : Session α σ) (f : Metrics.SessionMetrics α → Metrics.SessionMetrics α) :
    Session α σ :=
  { s with metrics := s.metrics.map f }

omit [Scalar α] in
/-- The session with its progress published. -/
def publish (s : Session α σ) : Session α σ :=
  s.measure (·.setProgress s.committed.clock.time s.committed.results.size)

/-! ## Resetting -/

/-- What a reset does before it is counted. Mirrors `reset_locked`. -/
def resetQuietly (s : Session α σ) (step : Option α) :
    Session α σ × Except (SessionError α) (ResetReport α) :=
  match Committed.checkStep step with
  | .error e => (s, .error e)
  | .ok () =>
    let (worker, answer) := s.worker.run s.scenario.initLimit
      (s.model.warmUp s.scenario.start s.scenario.warmupEnd)
    let (committed, result) := s.committed.settleReset step ⟨s.begun + 1⟩ answer
    ({ s with worker, committed, begun := begunAfter s.begun result }, result)

/-- Start the model over, simulate the warm-up, and begin a scored window. Mirrors `reset`. -/
def reset (s : Session α σ) (step : Option α) :
    Session α σ × Except (SessionError α) (ResetReport α) :=
  let (s, result) := s.resetQuietly step
  ((s.measure (·.recordReset (outcomeOf result))).publish, result)

/-! ## Advancing -/

/-- Run the exchange of a planned advance. -/
def exchange (s : Session α σ) (p : AdvancePlan α) :
    Session α σ × Except (CallFailure α) (SignalMap α) :=
  let (worker, answer) := s.worker.run s.scenario.stepLimit (s.model.exchange p.inputs p.duration)
  ({ s with worker }, answer)

/-- What follows an exchange; the time it took is measured if it gave outputs. -/
def settle (s : Session α σ) (p : AdvancePlan α) (latency : Nat)
    (answer : Except (CallFailure α) (SignalMap α)) :
    Session α σ × Except (SessionError α) (AdvanceReport α) :=
  let s :=
    match answer with
    | .error _ => s
    | .ok _ => s.measure (·.observeStep (secondsOf latency))
  let (committed, result) := s.committed.settleAdvance p latency answer
  ({ s with committed }, result)

omit [Scalar α] in
/-- The session with the outcome of an advance counted. -/
def count (s : Session α σ) (result : Except (SessionError α) (AdvanceReport α)) : Session α σ :=
  let s := s.measure (·.recordAdvance (outcomeOf result))
  match result with
  | .ok _ => s.publish
  | .error _ => s

/-- What an advance does before it is counted. Mirrors `advance_locked`. -/
def advanceQuietly (s : Session α σ) (latency : Nat) (inputs : SignalMap α) :
    Session α σ × Except (SessionError α) (AdvanceReport α) :=
  match s.committed.plan s.model.registry inputs with
  | .error e => (s, .error e)
  | .ok p =>
    let (s, answer) := s.exchange p
    s.settle p latency answer

/-- Apply the inputs for one step and commit what comes of it. The exchange takes `latency`
nanoseconds to compute. Mirrors `advance`. -/
def advance (s : Session α σ) (latency : Nat) (inputs : SignalMap α) :
    Session α σ × Except (SessionError α) (AdvanceReport α) :=
  let (s, result) := s.advanceQuietly latency inputs
  (s.count result, result)

/-- Advances that were issued together run one after the other. -/
def advanceAll (s : Session α σ) (latency : Nat) :
    List (SignalMap α) → Session α σ × List (Except (SessionError α) (AdvanceReport α))
  | [] => (s, [])
  | inputs :: rest =>
    let (s, result) := s.advance latency inputs
    let (s, results) := s.advanceAll latency rest
    (s, result :: results)

/-- Advance without inputs at most `fuel` times, until the scenario ends or a call fails; the
number of steps, if it came to that. The k-th step takes `latency k` nanoseconds. -/
@[specialize] def runFor (latency : Nat → Nat) :
    Nat → Nat → Session α σ → Session α σ × Option (Except (SessionError α) Nat)
  | 0, _, s => (s, none)
  | fuel + 1, steps, s =>
    match s.advance (latency steps) .empty with
    | (s, .error e) => (s, some (.error e))
    | (s, .ok report) =>
      if report.endOfScenario then (s, some (.ok (steps + 1)))
      else runFor latency fuel (steps + 1) s

/-- More steps than are left in the scenario. -/
def stepsLeft (s : Session α σ) : Nat :=
  let clock := s.committed.clock
  match Scalar.ceil? ((clock.stop - clock.time) / clock.step) with
  | some n => 2 * n.toNat + 2
  | none => pow2 20

/-- Advance without inputs until the scenario ends or a call fails; the number of steps. Mirrors
`run_to_end`, where `fuel` is more than enough. -/
def runToEnd (s : Session α σ) (latency : Nat → Nat) :
    Session α σ × Option (Except (SessionError α) Nat) :=
  runFor latency s.stepsLeft 0 s

/-! ## Changing the step -/

/-- Mirrors `set_step`. -/
def setStep (s : Session α σ) (step : α) : Session α σ × Except (SessionError α) α :=
  match s.committed.setStep step with
  | .error e => (s, .error e)
  | .ok committed => ({ s with committed }, .ok step)

end

/-! ## Reading -/

/-- Mirrors `status`. -/
def status (s : Session α σ) : SessionStatus α where
  name := s.scenario.name
  lifecycle := s.committed.lifecycle
  id := s.committed.id
  clock := s.committed.clock
  resultRows := s.committed.results.size

def getStep (s : Session α σ) : α := s.committed.clock.step

def inputs (s : Session α σ) : List (InputSignal α) := s.model.registry.inputs

def outputs (s : Session α σ) : List OutputSignal := s.model.registry.outputs

def measurements (s : Session α σ) : SignalMap α := s.committed.measurements

/-- A description of the session for people. -/
def text (s : Session α σ) : String :=
  let name := Text.quoted s.scenario.name
  let lifecycle := s.committed.lifecycle.title
  "SessionManager \x7b scenario: " ++ name ++ ", lifecycle: " ++ lifecycle ++ ", .. \x7d"

/-- The session with a runaway call allowed to go on, from the state that `f` makes. -/
def release (s : Session α σ) (f : σ → σ) : Session α σ :=
  { s with worker := (s.worker.setState (f s.worker.state)).release }

/-- The session with the state of its unit changed from outside. -/
def touchUnit (s : Session α σ) (f : σ → σ) : Session α σ :=
  { s with worker := s.worker.setState (f s.worker.state) }

def csv [Decimal.Numeral α] (s : Session α σ) : String := s.committed.results.csv

variable [Scalar α]

/-- Mirrors `kpis`. -/
def kpis (s : Session α σ) : List (String × α) := s.committed.kpiValues

/-- Mirrors `kpi_records`. -/
def kpiRecords (s : Session α σ) : List (KpiRecord α) := s.committed.kpis.records

/-- Mirrors `results`. -/
def results (s : Session α σ) (r : TimeRange α) : List (ResultRow α) := s.committed.results.range r

/-- The values of a registered signal in a window. Mirrors `series`. -/
def series (s : Session α σ) (signal : String) (r : TimeRange α) :
    Except (SessionError α) (TimeSeries α) :=
  if s.model.registry.hasSignal signal then .ok (s.committed.results.series signal r)
  else .error (.unknownSignal signal)

theorem reset_rejected {s : Session α σ} {step : Option α} {e : SessionError α}
    (h : Committed.checkStep step = .error e) : s.resetQuietly step = (s, .error e) := by
  simp [resetQuietly, h]

theorem advance_rejected {s : Session α σ} {latency : Nat} {inputs : SignalMap α}
    {e : SessionError α} (h : s.committed.plan s.model.registry inputs = .error e) :
    s.advanceQuietly latency inputs = (s, .error e) := by
  simp [advanceQuietly, h]

end Session

end BuildingEmulation
