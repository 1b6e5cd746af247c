import BuildingEmulation.Proofs.Clock
import BuildingEmulation.Proofs.Extended

/-!
# Clocks of a valid scenario

Times are extended scalars, since a client may ask for any step. But a valid scenario has finite
times, only finite steps come into force, and so every time that the clock ever shows is a
rational: it is the image of a clock in exact arithmetic.

Results:
* `Scenario.validate_extended`: what a valid scenario says of its window.
* `Clock.plan_extended`, `Clock.preview_extended`: planning and moving are exact.
* `Clock.checkStep_extended`: so is every step that may come into force.
* `Clock.Running.next_eq`: where a planned step leads.
-/
namespace BuildingEmulation

open Scalar (Extended)

/-- The scenario with its exact times among the extended scalars. -/
def Scenario.extended (s : Scenario Rat) : Scenario Extended where
  name := s.name
  start := .finite s.start
  stop := .finite s.stop
  warmup := .finite s.warmup
  step := .finite s.step
  stepLimit := s.stepLimit
  initLimit := s.initLimit

theorem Scenario.warmupEnd_extended (s : Scenario Rat) :
    s.extended.warmupEnd = .finite s.warmupEnd := rfl

/-- A valid scenario has exact times, with a window to score and a positive step. -/
theorem Scenario.validate_extended {scenario : Scenario Extended}
    (h : scenario.validate = .ok ()) :
    ∃ exact : Scenario Rat, scenario = exact.extended ∧ exact.Window := by
  unfold validate at h
  split at h
  · cases h
  · split at h
    · cases h
    · next hf =>
      have finite : ∀ entry ∈ scenario.times, ∃ q, entry.2 = .finite q := by
        intro entry hm
        have := List.find?_eq_none.1 hf entry hm
        exact Extended.isFinite_iff.1 (by simpa using this)
      obtain ⟨name, start, stop, warmup, step, stepLimit, initLimit⟩ := scenario
      obtain ⟨start, rfl⟩ := finite ("start_time", start) (by simp [times])
      obtain ⟨stop, rfl⟩ := finite ("end_time", stop) (by simp [times])
      obtain ⟨warmup, rfl⟩ := finite ("warmup_period", warmup) (by simp [times])
      obtain ⟨step, rfl⟩ := finite ("step", step) (by simp [times])
      refine ⟨⟨name, start, stop, warmup, step, stepLimit, initLimit⟩, rfl, ?_⟩
      simp only [warmupEnd, Extended.zero_finite, Extended.finite_lt, Extended.finite_le,
        Extended.finite_add] at h
      split at h
      · cases h
      · next hw =>
        split at h
        · cases h
        · next hs =>
          split at h
          · cases h
          · next hp =>
            refine ⟨?_, not_le.1 hs, not_le.1 hp⟩
            change start ≤ start + warmup
            linarith

namespace Clock

/-- The clock with its exact times among the extended scalars. -/
def extended (c : Clock Rat) : Clock Extended where
  time := .finite c.time
  step := .finite c.step
  start := .finite c.start
  warmupEnd := .finite c.warmupEnd
  stop := .finite c.stop
  initialized := c.initialized

theorem ofScenario_extended (s : Scenario Rat) :
    ofScenario s.extended = (ofScenario s).extended := rfl

variable (c : Clock Rat)

theorem plan_extended : c.extended.plan = .finite c.plan := by
  unfold plan extended
  simp only [Extended.zero_finite, Extended.finite_sub, Extended.smaller_finite,
    Extended.larger_finite, smaller_min, larger_max, zero_exact]

theorem timeTolerance_extended :
    (Calendar.timeTolerance : Extended) = .finite Calendar.timeTolerance := rfl

theorem preview_extended (duration : Rat) :
    c.extended.preview (.finite duration) =
      { time := .finite (c.preview duration).time
        elapsed := .finite (c.preview duration).elapsed
        reachedEnd := (c.preview duration).reachedEnd } := by
  unfold preview extended
  simp only [timeTolerance_extended, Extended.finite_sub, Extended.finite_add, Extended.finite_le]
  split <;> rfl

theorem advance_extended (duration : Rat) :
    c.extended.advance (.finite duration) = (c.advance duration).extended := by
  unfold advance
  rw [preview_extended]
  rfl

/-- Only finite and positive steps come into force. -/
theorem checkStep_extended {step : Extended} (h : checkStep step = .ok ()) :
    ∃ q, step = .finite q ∧ 0 < q := by
  unfold checkStep at h
  split at h
  · next hs =>
    obtain ⟨hf, hp⟩ := (Bool.and_eq_true _ _).mp hs
    obtain ⟨q, rfl⟩ := Extended.isFinite_iff.1 hf
    have hp := of_decide_eq_true hp
    rw [Extended.zero_finite, Extended.finite_lt] at hp
    exact ⟨q, rfl, hp⟩
  · cases h

/-! ## Where a step leads -/

/-- The time to which the next step leads: that of a whole step, unless it comes within the time
tolerance of the end. -/
def next : Rat :=
  if c.time + c.step < c.stop - Calendar.timeTolerance then c.time + c.step else c.stop

theorem next_le : c.next ≤ c.stop := by
  unfold next
  have := tolerance_pos
  split
  · linarith
  · exact le_rfl

variable {c}

/-- A planned step leads to the next time and takes as long as the clock moves. It reports the end
exactly when it leads there. -/
theorem Running.next_eq (h : c.Running) :
    (c.preview c.plan).time = c.next ∧ (c.preview c.plan).elapsed = c.next - c.time ∧
      ((c.preview c.plan).reachedEnd = true ↔ c.next = c.stop) := by
  have htol := tolerance_pos
  have hb := h.before
  have hplan := h.plan_min
  have helapsed := c.preview_elapsed c.plan
  unfold next
  by_cases hn : c.time + c.step < c.stop - Calendar.timeTolerance
  · have hs : c.plan = c.step := by rw [hplan]; exact min_eq_left (by linarith)
    rcases c.preview_cases c.plan with ⟨hle, -⟩ | ⟨-, hp⟩
    · rw [hs] at hle; linarith
    · rw [if_pos hn, hp, hs]
      refine ⟨rfl, by ring, fun h => (nomatch h), fun h => ?_⟩
      linarith
  · rcases c.preview_cases c.plan with ⟨-, hp⟩ | ⟨hlt, -⟩
    · rw [if_neg hn, hp]
      exact ⟨rfl, rfl, fun _ => rfl, fun _ => rfl⟩
    · rcases min_choice c.step (c.stop - c.time) with hm | hm
      · rw [hplan, hm] at hlt; exact absurd hlt hn
      · rw [hplan, hm] at hlt; linarith

theorem Running.next_later (h : c.Running) : c.time < c.next := by
  rw [← h.next_eq.1]
  exact h.preview_later

end Clock

end BuildingEmulation
