import BuildingEmulation.Clock
import BuildingEmulation.Proofs.Exact

/-!
# The clock in exact arithmetic

A clock that runs before its end has time left and a step to use it with, so a planned step is
positive. It moves by the time that is charged for it, never past the end, and reports the end
exactly when it lands there.

Results:
* `Scenario.validate_window`: what a valid scenario says of its window.
* `Clock.Running.plan_min`, `Clock.Running.plan_pos`: the planned step.
* `Clock.preview_elapsed`, `Clock.Running.preview_later`, `Clock.preview_before`: where it leads.
-/
namespace BuildingEmulation

/-- A window with time to score, and a positive step. -/
structure Scenario.Window (s : Scenario Rat) : Prop where
  start_le : s.start ≤ s.warmupEnd
  lt_stop : s.warmupEnd < s.stop
  step_pos : 0 < s.step

theorem Scenario.validate_window {s : Scenario Rat} (h : s.validate = .ok ()) : s.Window := by
  unfold validate at h
  split at h
  · cases h
  · split at h
    · cases h
    · split at h
      · cases h
      · next hw =>
        split at h
        · cases h
        · next hs =>
          split at h
          · cases h
          · next hp =>
            rw [zero_exact] at hw hp
            have hw : 0 ≤ s.warmup := not_lt.1 hw
            refine ⟨?_, not_le.1 hs, not_le.1 hp⟩
            change s.start ≤ s.start + s.warmup
            linarith

namespace Clock

variable (c : Clock Rat)

/-- Before the end, with a positive step. -/
structure Running (c : Clock Rat) : Prop where
  before : c.time < c.stop
  step_pos : 0 < c.step

theorem plan_eq : c.plan = max (min c.step (c.stop - c.time)) 0 := by
  unfold plan
  rw [larger_max, smaller_min, zero_exact]

theorem tolerance_pos : (0 : Rat) < Calendar.timeTolerance := by
  change (0 : Rat) < (1e-6 : Rat)
  norm_num

variable {c}

theorem Running.plan_min (h : c.Running) : c.plan = min c.step (c.stop - c.time) := by
  have hb : 0 < c.stop - c.time := by linarith [h.before]
  rw [plan_eq, max_eq_left (le_min h.step_pos.le hb.le)]

theorem Running.plan_pos (h : c.Running) : 0 < c.plan := by
  have hb : 0 < c.stop - c.time := by linarith [h.before]
  rw [h.plan_min]
  exact lt_min h.step_pos hb

theorem preview_cases (c : Clock Rat) (duration : Rat) :
    (c.stop - Calendar.timeTolerance ≤ c.time + duration ∧
        c.preview duration = ⟨c.stop, c.stop - c.time, true⟩) ∨
      (c.time + duration < c.stop - Calendar.timeTolerance ∧
        c.preview duration = ⟨c.time + duration, duration, false⟩) := by
  unfold preview
  by_cases h : c.stop - Calendar.timeTolerance ≤ c.time + duration
  · exact .inl ⟨h, if_pos h⟩
  · exact .inr ⟨not_le.1 h, if_neg h⟩

/-- The time charged for a step is the time by which the clock moves. -/
theorem preview_elapsed (c : Clock Rat) (duration : Rat) :
    (c.preview duration).elapsed = (c.preview duration).time - c.time := by
  rcases c.preview_cases duration with ⟨-, h⟩ | ⟨-, h⟩
  · rw [h]
  · rw [h]; ring

theorem Running.preview_later (h : c.Running) : c.time < (c.preview c.plan).time := by
  rcases c.preview_cases c.plan with ⟨-, hp⟩ | ⟨-, hp⟩
  · rw [hp]; exact h.before
  · rw [hp]; have := h.plan_pos; linarith

/-- A step that does not end the scenario leaves time. -/
theorem preview_before {duration : Rat} (h : (c.preview duration).reachedEnd = false) :
    (c.preview duration).time = c.time + duration ∧ (c.preview duration).time < c.stop := by
  rcases c.preview_cases duration with ⟨-, hp⟩ | ⟨hlt, hp⟩
  · rw [hp] at h; cases h
  · rw [hp]
    refine ⟨rfl, ?_⟩
    have := tolerance_pos
    change c.time + duration < c.stop
    linarith

theorem checkStep_pos {step : Rat} (h : checkStep step = .ok ()) : 0 < step := by
  unfold checkStep at h
  split at h
  · next hs =>
    have hp := of_decide_eq_true (Bool.and_eq_true _ _ ▸ hs).2
    rwa [zero_exact] at hp
  · cases h

end Clock

end BuildingEmulation
