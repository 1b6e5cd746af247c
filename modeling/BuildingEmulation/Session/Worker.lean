import BuildingEmulation.Model.Progress
import BuildingEmulation.Model.Exchange

/-!
# The worker of a session

Calls on the model run one at a time under a time limit. A call that has not come back within its
limit keeps the model to itself until it does, and its answer is lost; a call that is queued behind
it and reaches its own limit never touches the model.

Here an idle worker takes up a call at once. That the limit of a call may pass before a worker that
is free has taken it up is left to `Engine`, where calls are taken apart into their steps and the
limit passes at any of them; a session with such a worker is one of the orders there.

Results:
* `run_ok`, `run_error`: where a call leaves the worker, by how it ended.
* `ofProgress_discard`: the worker does not depend on the answer of a call.
-/
namespace BuildingEmulation

/-- The state of the model's unit, and whether a call has run away with it. -/
inductive Worker (α σ : Type)
  | idle (state : σ)
  /-- A call still runs, and will go on from the state it then finds. -/
  | busy (state : σ) (resume : σ → Progress σ (ModelError α) Unit)

/-- How far a call has come, as its caller and the worker both see it. Mirrors `CallPhase`. -/
inductive CallPhase
  /-- The call waits for the worker. -/
  | queued
  /-- The call has the worker. -/
  | running
  /-- Its caller stopped waiting. -/
  | abandoned
  deriving Repr, DecidableEq

/-- Why a call gave no answer. Mirrors `ModelFailure`. -/
structure CallFailure (α : Type) where
  error : ModelError α
  /-- The unit was inside the call when it was given up. -/
  inFlight : Bool
  deriving Repr

namespace CallFailure

variable {α : Type}

/-- The call came back with an error. -/
def settled (error : ModelError α) : CallFailure α := { error, inFlight := false }

/-- The limit of a call passed while the call was in a phase. -/
def timedOut (limit : TimeLimit) (phase : CallPhase) : CallFailure α where
  error := .timeout limit
  inFlight := phase = .running

/-- The worker of a call was lost while the call was in a phase. -/
def lost (phase : CallPhase) : CallFailure α where
  error := .worker
  inFlight := phase = .running

end CallFailure

namespace Worker

variable {α σ β : Type}

/-- The state of the unit. -/
def state : Worker α σ → σ
  | idle s => s
  | busy s _ => s

/-- The worker with another state of its unit. -/
def setState (w : Worker α σ) (s : σ) : Worker α σ :=
  match w with
  | idle _ => idle s
  | busy _ resume => busy s resume

/-- Where a call leaves the worker once its caller has stopped waiting. -/
def ofProgress : Progress σ (ModelError α) β → Worker α σ
  | .returned s _ => idle s
  | .failed s _ => idle s
  | .aborted s => idle s
  | .blocked s resume => busy s fun s => (resume s).discard

/-- What the caller of a running call learns within a time limit. -/
def answerOf (limit : TimeLimit) : Progress σ (ModelError α) β → Except (CallFailure α) β
  | .returned _ b => .ok b
  | .failed _ e => .error (.settled e)
  | .aborted _ => .error (.lost .running)
  | .blocked _ _ => .error (.timedOut limit .running)

/-- Run a call under a time limit, which passes if the call is or comes to be blocked. Mirrors
`run_model` for a worker that is busy with a runaway call or takes up the call at once. -/
def run (w : Worker α σ) (limit : TimeLimit) (call : Call σ (ModelError α) β) :
    Worker α σ × Except (CallFailure α) β :=
  match w with
  | busy s resume => (busy s resume, .error (.timedOut limit .queued))
  | idle s => (ofProgress (call s), answerOf limit (call s))

/-- Let a runaway call go on; its answer is lost. -/
def release : Worker α σ → Worker α σ
  | idle s => idle s
  | busy s resume => ofProgress (resume s)

/-- A call that came back with an answer had the worker to itself. -/
theorem run_ok {w w' : Worker α σ} {limit : TimeLimit} {call : Call σ (ModelError α) β} {b : β}
    (h : w.run limit call = (w', .ok b)) :
    ∃ s s', w = idle s ∧ call s = .returned s' b ∧ w' = idle s' := by
  cases w with
  | busy s resume => cases h
  | idle s =>
    cases hp : call s <;> simp only [run, hp, ofProgress, answerOf] at h <;> cases h
    exact ⟨s, _, rfl, hp, rfl⟩

/-- A call without an answer failed, was lost, ran out of time inside the unit, or ran out of time
behind a runaway call. -/
theorem run_error {w w' : Worker α σ} {limit : TimeLimit} {call : Call σ (ModelError α) β}
    {failure : CallFailure α} (h : w.run limit call = (w', .error failure)) :
    (∃ s s' e, w = idle s ∧ call s = .failed s' e ∧ w' = idle s' ∧ failure = .settled e) ∨
      (∃ s s', w = idle s ∧ call s = .aborted s' ∧ w' = idle s' ∧ failure = .lost .running) ∨
      (∃ s s' resume, w = idle s ∧ call s = .blocked s' resume ∧
        w' = busy s' (fun s => (resume s).discard) ∧ failure = .timedOut limit .running) ∨
      ∃ s resume, w = busy s resume ∧ w' = w ∧ failure = .timedOut limit .queued := by
  cases w with
  | busy s resume => cases h; exact .inr (.inr (.inr ⟨s, resume, rfl, rfl, rfl⟩))
  | idle s =>
    cases hp : call s <;> simp only [run, hp, ofProgress, answerOf] at h <;> cases h
    · exact .inl ⟨s, _, _, rfl, hp, rfl, rfl⟩
    · exact .inr (.inl ⟨s, _, rfl, hp, rfl, rfl⟩)
    · exact .inr (.inr (.inl ⟨s, _, _, rfl, hp, rfl, rfl⟩))

/-- The answer of a call does not matter to where it leaves the worker. -/
theorem ofProgress_discard (p : Progress σ (ModelError α) β) :
    (ofProgress p.discard : Worker α σ) = ofProgress p := by
  cases p with
  | blocked s resume => simp only [Progress.discard, ofProgress, Progress.discard_discard]
  | _ => rfl

end Worker

end BuildingEmulation
