import BuildingEmulation.Model.Recorded
import BuildingEmulation.Proofs.Model.Exchange

/-!
# Steps that a unit has completed

A recorded unit knows which steps have returned since its last restart did. Writing and reading
leave that tally alone, a step adds its duration exactly if it returns, and a restart that returns
clears it.

Results:
* `exchange_steps`: an exchange that answers has completed one step. One that fails may have
  completed it too: its outputs are read afterwards.
* `warmUp_steps`: a restart that answers leaves no steps.
-/
namespace BuildingEmulation

variable {α σ ε β : Type}

/-- The durations of the steps that returned since the last restart that did. -/
def completedSteps (events : List (UnitEvent α)) : List α :=
  events.foldl (fun steps e =>
    match e with
    | .returned (.restart _ _) => []
    | .returned (.doStep duration) => steps ++ [duration]
    | _ => steps) []

namespace Recorded

/-- The steps that the unit has completed since its last restart. -/
def steps (r : Recorded α σ) : List α := completedSteps r.events.toList

theorem steps_push (inner : σ) (events : Array (UnitEvent α)) (e : UnitEvent α) :
    (Recorded.mk inner (events.push e)).steps =
      match e with
      | .returned (.restart _ _) => []
      | .returned (.doStep duration) => completedSteps events.toList ++ [duration]
      | _ => completedSteps events.toList := by
  rw [steps, completedSteps, Array.toList_push, List.foldl_append]
  rfl

/-- What a call adds to the tally when it returns. -/
def tally (call : UnitCall α) (steps : List α) : List α :=
  match call with
  | .restart _ _ => []
  | .doStep duration => steps ++ [duration]
  | _ => steps

/-- The tally stands at these steps. -/
def HasSteps (steps : List α) (r : Recorded α σ) : Prop := r.steps = steps

/-- A recorded call is counted if it returns, and leaves the tally as it was if it fails. -/
theorem record_spec (call : UnitCall α) (c : Call σ ε β) (steps : List α) :
    Call.Spec (HasSteps steps) (record call c) (fun r _ => HasSteps (tally call steps) r)
      fun r _ => HasSteps steps r := by
  intro r hr
  have hn : (r.note (.called call)).steps = steps := by
    rw [← show r.steps = steps from hr, note, steps_push]; rfl
  unfold record
  cases hp : c r.inner with
  | returned s b =>
    change (Recorded.mk s ((r.note (.called call)).events.push (.returned call))).steps = _
    rw [steps_push, ← hn]
    cases call <;> rfl
  | failed s e => exact hn
  | aborted s => trivial
  | blocked s resume => trivial

end Recorded

namespace Model

open Recorded (HasSteps)

variable {m : Model α (Recorded α σ)} {unit : EmulationUnit α σ}

theorem lift_recorded (call : UnitCall α) (c : Call σ UnitError β) (steps : List α)
    {F : Recorded α σ → ModelError α → Prop} (hF : ∀ r e, HasSteps steps r → F r e) :
    Call.Spec (HasSteps steps) (lift (α := α) (Recorded.record call c))
      (fun r _ => HasSteps (Recorded.tally call steps) r) F :=
  .mapError ((Recorded.record_spec call c steps).mono (fun _ _ h => h) fun r _ h => hF r _ h)

variable [Scalar α]

/-- An exchange that answers has completed its step; one that fails has completed it or not. -/
theorem exchange_steps (hm : m.unit = unit.recorded) (inputs : SignalMap α) (duration : α)
    (steps : List α) :
    Call.Spec (HasSteps steps) (m.exchange inputs duration)
      (fun r _ => HasSteps (steps ++ [duration]) r)
      fun r _ => HasSteps steps r ∨ HasSteps (steps ++ [duration]) r := by
  refine (exchange_spec (P := HasSteps steps) (Q := HasSteps (steps ++ [duration]))
    ?_ ?_ ?_ (fun _ _ _ h => .inr h) inputs).mono (fun _ _ h => h.1) fun _ _ h => h
  · intro name value
    rw [hm]
    exact lift_recorded (.set name value) (unit.set name value) steps fun _ _ h => .inl h
  · unfold doStep
    rw [hm]
    exact lift_recorded (.doStep duration) (unit.doStep duration) steps fun _ _ h => .inl h
  · intro name
    rw [hm]
    exact lift_recorded (.get name) (unit.get name) (steps ++ [duration]) fun _ _ h => .inr h

theorem warmUp_steps (hm : m.unit = unit.recorded) (start warmupEnd : α) (steps : List α) :
    Call.Spec (HasSteps steps) (m.warmUp start warmupEnd) (fun r _ => HasSteps [] r)
      fun _ _ => True := by
  refine (warmUp_spec (P := HasSteps steps) (Q := HasSteps []) (F := fun _ _ => True) ?_ ?_
    (fun _ _ _ _ => trivial)).mono (fun _ _ h => h.1) fun _ _ h => h
  · unfold restart
    rw [hm]
    exact lift_recorded (.restart start warmupEnd) (unit.restart start warmupEnd) steps
      fun _ _ _ => trivial
  · intro name
    rw [hm]
    exact lift_recorded (.get name) (unit.get name) [] fun _ _ _ => trivial

end Model

end BuildingEmulation
