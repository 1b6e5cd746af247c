import BuildingEmulation.Proofs.Except
import BuildingEmulation.Proofs.Transition
import BuildingEmulation.Session.Basic

/-!
# What the calls of a session do

One relation says everything that a call can do to a session. What is proved of sessions later is
proved by its cases and never opens a call again. `Session.lts` is the system of all runs: clients
call in any order, and a runaway call goes on whenever it likes.

Results:
* `commit_cases`: a step is recorded in every part of the committed state or in none of them. The
  log is asked first, so adding the row cannot fail once the clock and the indicators have moved.
* `Step.change`: what a step does to the worker and to the committed state.
* `Step.frame`: no step changes the scenario or the model.
-/
namespace BuildingEmulation

variable {α σ : Type} [Scalar α]

/-! ## Committed changes -/

namespace Committed

/-- What the next advance is going to do with some inputs. -/
def planned (c : Committed α) (inputs : SignalMap α) : AdvancePlan α where
  inputs := inputs
  startTime := c.clock.time
  duration := c.clock.plan

/-- Where the next advance leads. -/
def move (c : Committed α) : ClockMove α := c.clock.preview c.clock.plan

/-- What the indicators see of the next advance. -/
def sample (c : Committed α) (outputs : SignalMap α) (latency : Nat) : StepSample α where
  startTime := c.clock.time
  elapsed := c.move.elapsed
  outputs := outputs
  latency := latency

/-- The row that the next advance adds to the log. -/
def nextRow (c : Committed α) (inputs outputs : SignalMap α) : ResultRow α where
  time := c.move.time
  values := inputs.overwrite outputs

/-- The state with the next advance recorded in every part. -/
def record (c : Committed α) (inputs outputs : SignalMap α) (latency : Nat) : Committed α :=
  { c with
    lifecycle := if c.move.reachedEnd then .scenarioEnded else c.lifecycle
    clock := c.clock.advance c.clock.plan
    kpis := c.kpis.step (c.sample outputs latency)
    results := ⟨c.results.rows.push (c.nextRow inputs outputs)⟩
    measurements := outputs }

/-- The answer to a recorded advance. -/
def recordReport (c : Committed α) (inputs outputs : SignalMap α) (latency : Nat) :
    AdvanceReport α where
  time := c.move.time
  outputs := outputs
  kpis := (c.record inputs outputs latency).kpiValues
  endOfScenario := c.move.reachedEnd

/-- The state at the start of a scored window. -/
def opened (c : Committed α) (step : Option α) (outputs : SignalMap α) (id : SessionId) :
    Committed α :=
  { c.clear with
    clock := { c.clock with
      step := step.getD c.clock.step, time := c.clock.warmupEnd, initialized := true }
    measurements := outputs
    lifecycle := .ready
    id := some id }

/-- The state with another step in force. -/
def withStep (c : Committed α) (step : α) : Committed α :=
  { c with clock := { c.clock with step } }

theorem record_rows (c : Committed α) (inputs outputs : SignalMap α) (latency : Nat) :
    (c.record inputs outputs latency).results.toList =
      c.results.toList ++ [c.nextRow inputs outputs] := Array.toList_push

/-- A session that is still ready after a step has not come to the end with it. -/
theorem reachedEnd_of_record {c : Committed α} {inputs outputs : SignalMap α} {latency : Nat}
    (ready : (c.record inputs outputs latency).lifecycle = .ready) : c.move.reachedEnd = false := by
  cases hend : c.move.reachedEnd with
  | false => rfl
  | true =>
    have hended : (c.record inputs outputs latency).lifecycle = .scenarioEnded := by
      simp only [record, hend, if_true]
    rw [hended] at ready
    cases ready

theorem commit_cases (c : Committed α) (inputs outputs : SignalMap α) (latency : Nat) :
    (∃ fault, c.results.checkNext c.move.time = .error fault ∧
        c.commit (c.planned inputs) outputs latency = (c, .error (.commit fault))) ∨
      (c.results.checkNext c.move.time = .ok () ∧
        c.commit (c.planned inputs) outputs latency =
          (c.record inputs outputs latency, .ok (c.recordReport inputs outputs latency))) := by
  have hd : c.clock.preview (c.planned inputs).duration = c.move := rfl
  unfold commit
  cases hc : c.results.checkNext c.move.time with
  | error fault => exact .inl ⟨fault, rfl, by simp only [hd, hc]⟩
  | ok u =>
    refine .inr ⟨rfl, ?_⟩
    -- the log is asked about the same time twice, and nothing was added in between
    simp only [hd, hc, ResultsLog.append]
    rfl

theorem checkInputs_error {r : Registry α} {entries : List (String × α)} {e : SessionError α}
    (h : checkInputs r entries = .error e) : ∃ name fault, e = .invalidInput name fault := by
  induction entries with
  | nil => cases h
  | cons entry rest ih =>
    rcases bind_eq_error h with h | ⟨-, -, h⟩
    · obtain ⟨fault, -, rfl⟩ := mapError_eq_error h
      exact ⟨entry.1, fault, rfl⟩
    · exact ih h

theorem checkInputs_ok {r : Registry α} {entries : List (String × α)}
    (h : checkInputs r entries = .ok ()) :
    ∀ entry ∈ entries, r.validateInput entry.1 entry.2 = .ok () := by
  induction entries with
  | nil => exact fun _ hm => nomatch hm
  | cons entry rest ih =>
    obtain ⟨u, hv, hrest⟩ := bind_eq_ok h
    intro entry' hm
    rcases List.mem_cons.1 hm with rfl | hm
    · exact mapError_eq_ok hv
    · exact ih hrest entry' hm

theorem plan_ready {c : Committed α} {r : Registry α} {inputs : SignalMap α}
    (ready : c.lifecycle = .ready) (valid : checkInputs r inputs.entries = .ok ()) :
    c.plan r inputs = .ok (c.planned inputs) := by
  unfold plan checkReady
  rw [ready, valid]
  rfl

/-- An advance is planned in a ready session whose registry takes the inputs; it is refused for the
lifecycle first and for an input then. -/
theorem plan_cases (c : Committed α) (r : Registry α) (inputs : SignalMap α) :
    (c.lifecycle = .ready ∧ checkInputs r inputs.entries = .ok () ∧
        c.plan r inputs = .ok (c.planned inputs)) ∨
      ∃ e, c.plan r inputs = .error e ∧
        (e = .notReady ∨ e = .scenarioEnded ∨ ∃ name fault, e = .invalidInput name fault) := by
  unfold plan checkReady
  cases hl : c.lifecycle with
  | uninitialized => exact .inr ⟨.notReady, rfl, .inl rfl⟩
  | needsReset => exact .inr ⟨.notReady, rfl, .inl rfl⟩
  | scenarioEnded => exact .inr ⟨.scenarioEnded, rfl, .inr (.inl rfl)⟩
  | ready =>
    cases hi : checkInputs r inputs.entries with
    | error e => exact .inr ⟨e, rfl, .inr (.inr (checkInputs_error hi))⟩
    | ok u => exact .inl ⟨rfl, rfl, rfl⟩

theorem plan_ok {c : Committed α} {r : Registry α} {inputs : SignalMap α} {p : AdvancePlan α}
    (h : c.plan r inputs = .ok p) :
    c.lifecycle = .ready ∧ checkInputs r inputs.entries = .ok () := by
  rcases c.plan_cases r inputs with ⟨ready, valid, -⟩ | ⟨e, he, -⟩
  · exact ⟨ready, valid⟩
  · rw [he] at h; cases h

/-- A step that the clock takes is taken by a reset, which cannot fail any more. -/
theorem begin_ok {c : Committed α} {step : Option α} (h : checkStep step = .ok ())
    (outputs : SignalMap α) (id : SessionId) :
    c.begin step outputs id =
      .ok (c.opened step outputs id, { time := c.clock.warmupEnd, outputs, id }) := by
  cases step with
  | none => rfl
  | some step =>
    have hs : Clock.checkStep step = .ok () := mapError_eq_ok h
    have hr : c.clock.reset (some step) =
        .ok { c.clock with step, time := c.clock.warmupEnd, initialized := true } := by
      simp only [Clock.reset, Clock.setStep, hs]; rfl
    rw [begin, hr]
    rfl

/-- A warm-up that gives outputs begins a window. -/
theorem settleReset_ok {c : Committed α} {step : Option α} (h : checkStep step = .ok ())
    (outputs : SignalMap α) (id : SessionId) :
    c.settleReset step id (.ok outputs) =
      (c.opened step outputs id, .ok { time := c.clock.warmupEnd, outputs, id }) := by
  simp only [settleReset, begin_ok h]

theorem checkStep_error {step : Option α} {e : SessionError α} (h : checkStep step = .error e) :
    ∃ fault, e = .invalidStep fault := by
  cases step with
  | none => cases h
  | some step =>
    obtain ⟨fault, -, he⟩ := mapError_eq_error h
    exact ⟨fault, he⟩

theorem setStep_cases (c : Committed α) (step : α) :
    (Clock.checkStep step = .ok () ∧ c.setStep step = .ok (c.withStep step)) ∨
      ∃ fault, c.setStep step = .error (.invalidStep fault) := by
  unfold setStep Clock.setStep
  cases hc : Clock.checkStep step with
  | error fault => exact .inr ⟨fault, rfl⟩
  | ok u => exact .inl ⟨rfl, rfl⟩

end Committed

/-! ## Events and runs -/

/-- What happens to a session: a call with its answer, or a runaway call that goes on. -/
inductive SessionEvent (α : Type)
  | advance (latency : Nat) (inputs : SignalMap α)
      (answer : Except (SessionError α) (AdvanceReport α))
  | reset (step : Option α) (answer : Except (SessionError α) (ResetReport α))
  | setStep (step : α) (answer : Except (SessionError α) α)
  | release

omit [Scalar α] in
/-- The error that a call answers with. -/
def SessionEvent.error? : SessionEvent α → Option (SessionError α)
  | .advance _ _ (.error e) | .reset _ (.error e) | .setStep _ (.error e) => some e
  | _ => none

namespace Session

/-- One call, or one more stretch of a runaway call. -/
def Step (s : Session α σ) : SessionEvent α → Session α σ → Prop
  | .advance latency inputs answer, s' => s.advance latency inputs = (s', answer)
  | .reset step answer, s' => s.reset step = (s', answer)
  | .setStep step answer, s' => s.setStep step = (s', answer)
  | .release, s' => s.release id = s'

/-- A session that has just been opened, with or without metrics. -/
def Opened (scenario : Scenario α) (specs : List (KpiSpec α)) (unit : EmulationUnit α σ)
    (s : Session α σ) : Prop :=
  ∃ state s₀, start scenario specs unit state = .ok s₀ ∧ (s = s₀ ∨ s = s₀.withMetrics)

/-- The runs of the sessions over a unit. -/
def lts (scenario : Scenario α) (specs : List (KpiSpec α)) (unit : EmulationUnit α σ) :
    LTS (Session α σ) (SessionEvent α) where
  init := Opened scenario specs unit
  step := Step

section

variable {scenario : Scenario α} {specs : List (KpiSpec α)} {unit : EmulationUnit α σ}

theorem step_reset (s : Session α σ) (step : Option α) :
    (lts scenario specs unit).step s (.reset step (s.reset step).2) (s.reset step).1 := rfl

theorem step_advance (s : Session α σ) (latency : Nat) (inputs : SignalMap α) :
    (lts scenario specs unit).step s (.advance latency inputs (s.advance latency inputs).2)
      (s.advance latency inputs).1 := rfl

theorem step_setStep (s : Session α σ) (step : α) :
    (lts scenario specs unit).step s (.setStep step (s.setStep step).2) (s.setStep step).1 := rfl

theorem reachable_reset {s : Session α σ} (h : (lts scenario specs unit).Reachable s)
    (step : Option α) : (lts scenario specs unit).Reachable (s.reset step).1 :=
  h.of_step (step_reset s step)

end

/-- What a step does to the worker and to the committed state, by how the call ends. -/
inductive Change (s : Session α σ) : SessionEvent α → Worker α σ → Committed α → Prop
  /-- The lifecycle or an input does not allow the advance. -/
  | refused {latency inputs e} (plan : s.committed.plan s.model.registry inputs = .error e)
      (reason : e = .notReady ∨ e = .scenarioEnded ∨ ∃ name fault, e = .invalidInput name fault) :
      Change s (.advance latency inputs (.error e)) s.worker s.committed
  /-- The exchange gives no outputs. -/
  | failed {latency inputs w failure} (ready : s.committed.lifecycle = .ready)
      (valid : Committed.checkInputs s.model.registry inputs.entries = .ok ())
      (run : s.worker.run s.scenario.stepLimit
        (s.model.exchange inputs s.committed.clock.plan) = (w, .error failure)) :
      Change s (.advance latency inputs (.error (.modelStep failure.error))) w
        (s.committed.fail failure.inFlight)
  /-- The log does not take the row. -/
  | uncommitted {latency inputs w outputs fault} (ready : s.committed.lifecycle = .ready)
      (valid : Committed.checkInputs s.model.registry inputs.entries = .ok ())
      (run : s.worker.run s.scenario.stepLimit
        (s.model.exchange inputs s.committed.clock.plan) = (w, .ok outputs))
      (log : s.committed.results.checkNext s.committed.move.time = .error fault) :
      Change s (.advance latency inputs (.error (.commit fault))) w s.committed
  | advanced {latency inputs w outputs} (ready : s.committed.lifecycle = .ready)
      (valid : Committed.checkInputs s.model.registry inputs.entries = .ok ())
      (run : s.worker.run s.scenario.stepLimit
        (s.model.exchange inputs s.committed.clock.plan) = (w, .ok outputs))
      (log : s.committed.results.checkNext s.committed.move.time = .ok ()) :
      Change s (.advance latency inputs (.ok (s.committed.recordReport inputs outputs latency))) w
        (s.committed.record inputs outputs latency)
  /-- The step that comes with the reset is not one. -/
  | resetRefused {step fault} (valid : Committed.checkStep step = .error (.invalidStep fault)) :
      Change s (.reset step (.error (.invalidStep fault))) s.worker s.committed
  /-- The warm-up gives no outputs. -/
  | resetFailed {step w failure} (valid : Committed.checkStep step = .ok ())
      (run : s.worker.run s.scenario.initLimit
        (s.model.warmUp s.scenario.start s.scenario.warmupEnd) = (w, .error failure)) :
      Change s (.reset step (.error (.reset failure.error))) w s.committed.abandon
  | begun {step w outputs} (valid : Committed.checkStep step = .ok ())
      (run : s.worker.run s.scenario.initLimit
        (s.model.warmUp s.scenario.start s.scenario.warmupEnd) = (w, .ok outputs)) :
      Change s
        (.reset step
          (.ok { time := s.committed.clock.warmupEnd, outputs, id := ⟨s.begun + 1⟩ })) w
        (s.committed.opened step outputs ⟨s.begun + 1⟩)
  | stepRefused {step fault} :
      Change s (.setStep step (.error (.invalidStep fault))) s.worker s.committed
  | stepSet {step} (valid : Clock.checkStep step = .ok ()) :
      Change s (.setStep step (.ok step)) s.worker (s.committed.withStep step)
  | released : Change s .release s.worker.release s.committed

/-! ## Counting leaves everything else alone -/

section

omit [Scalar α]

variable (s : Session α σ)

@[simp] theorem measure_committed (f : Metrics.SessionMetrics α → Metrics.SessionMetrics α) :
    (s.measure f).committed = s.committed := rfl

@[simp] theorem measure_worker (f : Metrics.SessionMetrics α → Metrics.SessionMetrics α) :
    (s.measure f).worker = s.worker := rfl

@[simp] theorem measure_scenario (f : Metrics.SessionMetrics α → Metrics.SessionMetrics α) :
    (s.measure f).scenario = s.scenario := rfl

@[simp] theorem measure_model (f : Metrics.SessionMetrics α → Metrics.SessionMetrics α) :
    (s.measure f).model = s.model := rfl

end

section

omit [Scalar α]

variable (s : Session α σ) (result : Except (SessionError α) (AdvanceReport α))

@[simp] theorem count_committed : (s.count result).committed = s.committed := by
  cases result <;> rfl

@[simp] theorem count_worker : (s.count result).worker = s.worker := by cases result <;> rfl

@[simp] theorem count_scenario : (s.count result).scenario = s.scenario := by cases result <;> rfl

@[simp] theorem count_model : (s.count result).model = s.model := by cases result <;> rfl

end

/-! ## One lemma for each call -/

variable (s : Session α σ)

theorem advance_change (latency : Nat) (inputs : SignalMap α) :
    Change s (.advance latency inputs (s.advance latency inputs).2)
      (s.advance latency inputs).1.worker (s.advance latency inputs).1.committed := by
  unfold advance advanceQuietly
  simp only [count_worker, count_committed]
  rcases s.committed.plan_cases s.model.registry inputs with ⟨hr, hv, hp⟩ | ⟨e, hp, he⟩
  · rw [hp]
    cases hw : s.worker.run s.scenario.stepLimit
        (s.model.exchange inputs s.committed.clock.plan) with
    | mk w answer =>
      have hx : s.exchange (s.committed.planned inputs) = ({ s with worker := w }, answer) := by
        simp only [exchange, Committed.planned, hw]
      simp only [hx]
      cases answer with
      | error failure => exact .failed hr hv hw
      | ok outputs =>
        simp only [settle, measure_worker, measure_committed, Committed.settleAdvance]
        rcases s.committed.commit_cases inputs outputs latency with ⟨fault, hl, hc⟩ | ⟨hl, hc⟩
        · rw [hc]; exact .uncommitted hr hv hw hl
        · rw [hc]; exact .advanced hr hv hw hl
  · rw [hp]; exact .refused hp he

theorem reset_change (step : Option α) :
    Change s (.reset step (s.reset step).2) (s.reset step).1.worker (s.reset step).1.committed := by
  unfold reset resetQuietly
  simp only [publish, measure_worker, measure_committed]
  cases hv : Committed.checkStep step with
  | error e =>
    obtain ⟨fault, rfl⟩ := Committed.checkStep_error hv
    exact .resetRefused hv
  | ok u =>
    cases hw : s.worker.run s.scenario.initLimit
        (s.model.warmUp s.scenario.start s.scenario.warmupEnd) with
    | mk w answer =>
      cases answer with
      | error failure => exact .resetFailed hv hw
      | ok outputs =>
        simp only [Committed.settleReset_ok hv]
        exact .begun hv hw

theorem setStep_change (step : α) :
    Change s (.setStep step (s.setStep step).2) (s.setStep step).1.worker
      (s.setStep step).1.committed := by
  unfold setStep
  rcases s.committed.setStep_cases step with ⟨hv, hc⟩ | ⟨fault, hc⟩
  · rw [hc]; exact .stepSet hv
  · rw [hc]; exact .stepRefused

variable {s} {s' : Session α σ} {e : SessionEvent α}

/-- Everything that a step can do. -/
theorem Step.change (h : s.Step e s') : Change s e s'.worker s'.committed := by
  cases e with
  | advance latency inputs answer =>
    have hc := advance_change s latency inputs
    rw [show s.advance latency inputs = (s', answer) from h] at hc
    exact hc
  | reset step answer =>
    have hc := reset_change s step
    rw [show s.reset step = (s', answer) from h] at hc
    exact hc
  | setStep step answer =>
    have hc := setStep_change s step
    rw [show s.setStep step = (s', answer) from h] at hc
    exact hc
  | release =>
    have hc : s.release id = s' := h
    subst hc
    cases hw : s.worker <;> simpa [release, Worker.state, Worker.setState, hw] using
      Change.released (s := s)

/-- Everything that was committed, apart from the lifecycle. -/
structure KeepsRecord (s s' : Session α σ) : Prop where
  id : s'.committed.id = s.committed.id
  clock : s'.committed.clock = s.committed.clock
  kpis : s'.committed.kpis = s.committed.kpis
  results : s'.committed.results = s.committed.results
  measurements : s'.committed.measurements = s.committed.measurements

omit [Scalar α] in
/-- A failed advance leaves the record, whether or not the unit is still inside it. -/
theorem keepsRecord_fail (inFlight : Bool) (h : s'.committed = s.committed.fail inFlight) :
    s.KeepsRecord s' := by
  obtain ⟨hc, hk, hr, hm, hi⟩ := s.committed.fail_fields inFlight
  rw [← h] at hc hk hr hm hi
  exact ⟨hi, hc, hk, hr, hm⟩

/-- The scenario and the model of a session never change. -/
theorem Step.frame (h : s.Step e s') : s'.scenario = s.scenario ∧ s'.model = s.model := by
  cases e with
  | advance latency inputs answer =>
    have hs : (s.advance latency inputs).1 = s' := congrArg Prod.fst h
    subst hs
    unfold advance advanceQuietly
    simp only [count_scenario, count_model]
    cases s.committed.plan s.model.registry inputs with
    | error e => exact ⟨rfl, rfl⟩
    | ok p => cases ha : (s.exchange p).2 <;> simp [exchange, settle] at ha ⊢ <;> simp [ha]
  | reset step answer =>
    have hs : (s.reset step).1 = s' := congrArg Prod.fst h
    subst hs
    unfold reset resetQuietly
    simp only [publish, measure_scenario, measure_model]
    repeat' split
    all_goals exact ⟨rfl, rfl⟩
  | setStep step answer =>
    have hs : (s.setStep step).1 = s' := congrArg Prod.fst h
    subst hs
    unfold setStep
    split <;> exact ⟨rfl, rfl⟩
  | release => cases h; exact ⟨rfl, rfl⟩

end Session

end BuildingEmulation
