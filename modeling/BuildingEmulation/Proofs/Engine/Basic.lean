import BuildingEmulation.Proofs.Session.Calls

/-!
# A session and its tasks

`Session` runs every call to its end or to its time limit at once. Here the same calls are taken
apart into the steps in which they really happen, and these come in any order:

* `enter`: a call passes the gate, which lets in the next one only when this one has settled;
* `plan`: it is refused, or it sends a task off to make the model call (a new step is set at once);
* `lock`: some task that waits for the model gets it;
* `look`: that task looks at its phase, and goes into the unit unless it has been abandoned;
* `work`: the unit goes on with the task inside it until it returns, fails, aborts or blocks;
* `hear`: the caller learns how its task has ended;
* `expire`: the time limit passes, whatever the task has come to; the caller reads the phase of the
  task and abandons it;
* `settle`: the caller enters what it learned into the committed state and leaves the gate.

Nothing makes a task hurry: it may get the model long after its caller has left, and stay inside
the unit for as long as it likes. A caller does not go away before it has settled. What the calls
plan, run and commit are the definitions that `Session` runs.
-/
namespace BuildingEmulation

variable {α σ : Type}

/-- A call that changes a session. -/
inductive Request (α : Type)
  | reset (step : Option α)
  | advance (latency : Nat) (inputs : SignalMap α)
  | setStep (step : α)

/-- A model call as its caller has planned it. -/
inductive Job (α : Type)
  | reset (step : Option α)
  | advance (plan : AdvancePlan α) (latency : Nat)

namespace Job

/-- The job starts the model over. -/
def IsReset : Job α → Prop
  | reset _ => True
  | advance _ _ => False

/-- The call that the job makes on the model. -/
def call [Scalar α] (scenario : Scenario α) (model : Model α σ) :
    Job α → Call σ (ModelError α) (SignalMap α)
  | reset _ => model.warmUp scenario.start scenario.warmupEnd
  | advance p _ => model.exchange p.inputs p.duration

/-- How long the caller waits. -/
def limit (scenario : Scenario α) : Job α → TimeLimit
  | reset _ => scenario.initLimit
  | advance _ _ => scenario.stepLimit

end Job

/-- How a task that went into the unit came out again. -/
inductive TaskOutcome (α : Type)
  | returned (outputs : SignalMap α)
  | failed (error : ModelError α)
  | aborted

/-- What a caller that waits for a task is told when the task has ended in a phase. -/
def TaskOutcome.answer (phase : CallPhase) :
    TaskOutcome α → Except (CallFailure α) (SignalMap α)
  | returned outputs => .ok outputs
  | failed error => .error (.settled error)
  | aborted => .error (.lost phase)

/-- Where a task stands. -/
inductive Stage (α σ : Type)
  /-- It waits for the model. -/
  | waiting
  /-- It has the model, and has not looked at its phase. -/
  | locked
  /-- It is inside the unit, with this left to do. -/
  | inside (rest : Call σ (ModelError α) (SignalMap α))
  | ended (outcome : TaskOutcome α)
  /-- It found itself abandoned and gave the model back. -/
  | skipped

namespace Stage

/-- Where a task stands after the unit has gone on with it. -/
def ofProgress : Progress σ (ModelError α) (SignalMap α) → Stage α σ
  | .returned _ outputs => ended (.returned outputs)
  | .failed _ e => ended (.failed e)
  | .aborted _ => ended .aborted
  | .blocked _ resume => inside resume

/-- The task has the model to itself. -/
def holds : Stage α σ → Bool
  | locked | inside _ => true
  | _ => false

end Stage

/-- A model call on its way. The phase is shared between the task and its caller. -/
structure Task (α σ : Type) where
  job : Job α
  phase : CallPhase
  stage : Stage α σ
  /-- What its caller was told when it stopped waiting. -/
  told : Option (Except (CallFailure α) (SignalMap α))

namespace Task

/-- A task that has just been sent off. -/
def fresh (job : Job α) : Task α σ := { job, phase := .queued, stage := .waiting, told := none }

/-- The task is inside the unit. -/
def Inside (t : Task α σ) : Prop := ∃ rest, t.stage = .inside rest

/-- What a caller that waits for the task hears, once the task has come to an end. -/
def answer? (limit : TimeLimit) (t : Task α σ) :
    Option (Except (CallFailure α) (SignalMap α)) :=
  match t.stage with
  | .ended outcome => some (outcome.answer t.phase)
  | .skipped => some (.error (.settled (.timeout limit)))
  | _ => none

end Task

/-- What goes on behind the gate. -/
inductive Turn (α : Type)
  | free
  | entered (request : Request α)
  /-- The caller waits for the task with this number. -/
  | awaiting (i : Nat)
  /-- The caller knows what has become of the task, and has not settled yet. -/
  | learned (i : Nat) (answer : Except (CallFailure α) (SignalMap α))

/-- The task that the call behind the gate is about. -/
def Turn.task? : Turn α → Option Nat
  | awaiting i | learned i _ => some i
  | _ => none

/-- No caller waits for a task, and none has left one inside the unit and not settled yet. -/
def Turn.Quiet : Turn α → Prop
  | awaiting _ => False
  | learned _ (.error failure) => failure.inFlight = false
  | _ => True

/-- A session with all tasks that were ever sent off, in order. -/
structure Engine (α σ : Type) where
  scenario : Scenario α
  model : Model α σ
  committed : Committed α
  begun : Nat
  unit : σ
  /-- The task that has the model. -/
  lock : Option Nat
  tasks : List (Task α σ)
  turn : Turn α

/-- One step of a session and its tasks. -/
inductive Move (α : Type)
  | enter (request : Request α)
  | plan
  | lock (i : Nat)
  | look (i : Nat)
  | work (i : Nat)
  | hear
  | expire
  | settle

namespace Engine

/-- The session with a task changed. -/
def setTask (e : Engine α σ) (i : Nat) (t : Task α σ) : Engine α σ :=
  { e with tasks := e.tasks.set i t }

/-- The session with a task sent off, for which the caller then waits. -/
def spawn (e : Engine α σ) (job : Job α) : Engine α σ :=
  { e with tasks := e.tasks ++ [.fresh job], turn := .awaiting e.tasks.length }

variable [Scalar α]

/-- The session with the answer to a job entered into its committed state. -/
def conclude (e : Engine α σ) (job : Job α) (answer : Except (CallFailure α) (SignalMap α)) :
    Engine α σ :=
  match job with
  | .advance p latency =>
    let (committed, _) := e.committed.settleAdvance p latency answer
    { e with committed, turn := .free }
  | .reset step =>
    let (committed, result) := e.committed.settleReset step ⟨e.begun + 1⟩ answer
    { e with committed, begun := begunAfter e.begun result, turn := .free }

/-- What can happen next. `plan` and `settle` mirror `advance_locked` and `reset_locked` on both sides
of the model call, and the moves between them mirror `run_model` with the task that it sends off. -/
inductive Step (e : Engine α σ) : Move α → Engine α σ → Prop
  | enter (turn : e.turn = .free) (request : Request α) :
      Step e (.enter request) { e with turn := .entered request }
  | refuseAdvance {latency inputs error} (turn : e.turn = .entered (.advance latency inputs))
      (plan : e.committed.plan e.model.registry inputs = .error error) :
      Step e .plan { e with turn := .free }
  | planAdvance {latency inputs p} (turn : e.turn = .entered (.advance latency inputs))
      (plan : e.committed.plan e.model.registry inputs = .ok p) :
      Step e .plan (e.spawn (.advance p latency))
  | refuseReset {step error} (turn : e.turn = .entered (.reset step))
      (check : Committed.checkStep step = .error error) : Step e .plan { e with turn := .free }
  | planReset {step} (turn : e.turn = .entered (.reset step))
      (check : Committed.checkStep step = .ok ()) : Step e .plan (e.spawn (.reset step))
  | refuseStep {step error} (turn : e.turn = .entered (.setStep step))
      (set : e.committed.setStep step = .error error) : Step e .plan { e with turn := .free }
  | setStep {step committed} (turn : e.turn = .entered (.setStep step))
      (set : e.committed.setStep step = .ok committed) :
      Step e .plan { e with committed, turn := .free }
  | lock {i t} (task : e.tasks[i]? = some t) (waiting : t.stage = .waiting)
      (open_ : e.lock = none) :
      Step e (.lock i) ({ e with lock := some i }.setTask i { t with stage := .locked })
  | run {i t} (task : e.tasks[i]? = some t) (locked : t.stage = .locked)
      (phase : t.phase ≠ .abandoned) :
      Step e (.look i) (e.setTask i { t with
        phase := .running, stage := .inside (t.job.call e.scenario e.model) })
  | skip {i t} (task : e.tasks[i]? = some t) (locked : t.stage = .locked)
      (phase : t.phase = .abandoned) :
      Step e (.look i) ({ e with lock := none }.setTask i { t with stage := .skipped })
  | work {i t rest} (task : e.tasks[i]? = some t) (inside : t.stage = .inside rest) :
      Step e (.work i) ({ e with
        unit := (rest e.unit).state
        lock := if (Stage.ofProgress (rest e.unit)).holds then e.lock else none }.setTask i
          { t with stage := .ofProgress (rest e.unit) })
  | hear {i t answer} (turn : e.turn = .awaiting i) (task : e.tasks[i]? = some t)
      (ended : t.answer? (t.job.limit e.scenario) = some answer) :
      Step e .hear ({ e with turn := .learned i answer }.setTask i { t with told := some answer })
  | expire {i t} (turn : e.turn = .awaiting i) (task : e.tasks[i]? = some t) :
      Step e .expire
        ({ e with
            turn := .learned i (.error (.timedOut (t.job.limit e.scenario) t.phase)) }.setTask i
          { t with
            phase := .abandoned
            told := some (.error (.timedOut (t.job.limit e.scenario) t.phase)) })
  | settle {i t answer} (turn : e.turn = .learned i answer) (task : e.tasks[i]? = some t) :
      Step e .settle (e.conclude t.job answer)

/-- A session that has just been opened, without any tasks. -/
def ofSession (s : Session α σ) : Engine α σ where
  scenario := s.scenario
  model := s.model
  committed := s.committed
  begun := s.begun
  unit := s.worker.state
  lock := none
  tasks := []
  turn := .free

/-- The runs of the sessions over a unit, step by step. -/
def lts (scenario : Scenario α) (specs : List (KpiSpec α)) (unit : EmulationUnit α σ) :
    LTS (Engine α σ) (Move α) where
  init e := ∃ s, Session.Opened scenario specs unit s ∧ e = ofSession s
  step := Step

end Engine

end BuildingEmulation
