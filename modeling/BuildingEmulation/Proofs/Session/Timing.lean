import BuildingEmulation.Proofs.Session.Coherent
import BuildingEmulation.Proofs.Session.Steps
import BuildingEmulation.Proofs.Session.Tank

/-!
# The steps of a run

The duration of a step is planned by the clock, previewed for the log, and made by the clock in the
end, each time by its own rule. All of them come to the same: an advance with a step in force takes
the unit, the clock, the log and the indicators from one time to the next, and lands on the end of
the scenario rather than closer to it than the time tolerance.

Results:
* `clock_step`: the step in force is the one that was set last, by a reset that succeeded or by a
  client in between.
* `timely`: along every run every advance that succeeds is a move of this kind, the time charged to
  the indicators is the time since the warm-up, and no advance is refused by the log.
-/
namespace BuildingEmulation

open Scalar (Extended)

namespace Session

section

variable {α σ : Type} [Scalar α] {scenario : Scenario α} {specs : List (KpiSpec α)}
  {unit : EmulationUnit α σ} {s₀ s : Session α σ}
  {ts : List (Transition (Session α σ) (SessionEvent α))}

/-- A call that sets no step leaves the one that is in force. -/
theorem Change.step_eq {e : SessionEvent α} {w : Worker α σ} {c : Committed α}
    (h : Change s e w c) : c.clock.step = e.step?.getD s.committed.clock.step := by
  cases h with
  | failed => rw [(s.committed.fail_fields _).1]; rfl
  | _ => rfl

theorem clock_step (h₀ : (lts scenario specs unit).init s₀)
    (hr : (lts scenario specs unit).Run s₀ ts s) :
    s.committed.clock.step = stepInForce scenario ts := by
  induction hr with
  | nil =>
    obtain ⟨-, -, -, -, kpis, -, hc⟩ := Opened.parts h₀
    rw [hc]; rfl
  | snoc _ step ih => rw [stepInForce_snoc, (Step.change step).step_eq, ih]

end

variable {σ : Type}

/-- An advance from the time of a clock to its next one, seen by the unit, the clock, the log, the
indicators and the client. -/
structure Moves (clock : Clock Rat) (latency : Nat) (report : AdvanceReport Extended)
    (s s' : Session Extended (Recorded Extended σ)) : Prop where
  positive : 0 < min clock.step (clock.stop - clock.time)
  stepped : s'.steps = s.steps ++ [.finite (min clock.step (clock.stop - clock.time))]
  clock_eq : s'.committed.clock = { clock with time := clock.next }.extended
  logged : ∃ row, row.time = .finite clock.next ∧
    s'.committed.results.toList = s.committed.results.toList ++ [row]
  charged : s'.committed.kpis = s.committed.kpis.step
    { startTime := .finite clock.time, elapsed := .finite (clock.next - clock.time)
      outputs := report.outputs, latency }
  reported : report.time = .finite clock.next
  ended : report.endOfScenario = true ↔ clock.next = clock.stop

/-- The times of a session are those of a clock in the window of its scenario, with the step in
force that was set last, and every advance moves along it. -/
structure Timely (scenario : Scenario Extended) (clock : Clock Rat)
    (ts : List (Transition (Session Extended (Recorded Extended σ)) (SessionEvent Extended)))
    (s : Session Extended (Recorded Extended σ)) : Prop where
  clock_eq : s.committed.clock = clock.extended
  step_eq : stepInForce scenario ts = .finite clock.step
  warmupEnd_eq : scenario.warmupEnd = .finite clock.warmupEnd
  stop_eq : scenario.stop = .finite clock.stop
  charged : s.committed.lifecycle ≠ .uninitialized →
    s.committed.kpis.simulated = .finite (clock.time - clock.warmupEnd)
  moves : ∀ {latency inputs report s'}, s.Step (.advance latency inputs (.ok report)) s' →
    Moves clock latency report s s'
  committed : ∀ {latency inputs fault s'},
    ¬ s.Step (.advance latency inputs (.error (.commit fault))) s'

variable {scenario : Scenario Extended} {specs : List (KpiSpec Extended)}
  {unit : EmulationUnit Extended σ} {s₀ s s' : Session Extended (Recorded Extended σ)}
  {ts : List (Transition (Session Extended (Recorded Extended σ)) (SessionEvent Extended))}

theorem moves_of_step {clock : Clock Rat} {times : List Rat} {latency : Nat}
    {inputs : SignalMap Extended} {report : AdvanceReport Extended}
    (h : s.committed.Coherent clock times) (hm : s.model.unit = unit.recorded)
    (hs : s.Step (.advance latency inputs (.ok report)) s') : Moves clock latency report s s' := by
  have hc := hs.change
  generalize hw : s'.worker = w at hc
  generalize hcm : s'.committed = c at hc
  cases hc with
  | @advanced _ _ _ outputs ready valid run log =>
    obtain ⟨htime, helapsed, hend⟩ := h.move_eq ready
    have running := h.running ready
    obtain ⟨r, hr, hd⟩ := exchange_ok hm run
    rw [h.clock_eq, clock.plan_extended, running.plan_min] at hd
    refine ⟨?_, ?_, ?_, ⟨s.committed.nextRow inputs outputs, htime, ?_⟩, ?_, htime, hend⟩
    · rw [← running.plan_min]; exact running.plan_pos
    · rw [steps, hw, hr]; exact hd
    · rw [hcm]; exact (h.record ready inputs outputs latency).clock_eq
    · rw [hcm]; exact Array.toList_push
    · rw [hcm, Committed.record, Committed.sample, helapsed, h.clock_eq]; rfl

theorem timely (hv : scenario.validate = .ok ())
    (h₀ : (lts scenario specs unit.recorded).init s₀)
    (hr : (lts scenario specs unit.recorded).Run s₀ ts s) :
    ∃ clock, Timely scenario clock ts s := by
  obtain ⟨exact, rfl, window⟩ := Scenario.validate_extended hv
  obtain ⟨clock, times, coherent, -, hwarmup, hstop⟩ := coherent_run window h₀ hr
  have fixed := (fixed_inductive exact.extended specs unit.recorded).run hr
    ((fixed_inductive exact.extended specs unit.recorded).init s₀ h₀)
  refine ⟨clock, coherent.clock_eq, ?_, ?_, ?_, fun hl => (coherent.begun hl).simulated,
    moves_of_step coherent fixed.unit_eq, ?_⟩
  · rw [← clock_step h₀ hr, coherent.clock_eq]; rfl
  · rw [exact.warmupEnd_extended, hwarmup]
  · rw [hstop]; rfl
  · intro latency inputs fault s' hs
    have hc := hs.change
    generalize s'.worker = w at hc
    generalize s'.committed = c at hc
    cases hc with
    | refused plan reason =>
      rcases reason with h | h | ⟨_, _, h⟩ <;> cases h
    | uncommitted ready valid run log =>
      -- the next time is later than every row
      rw [coherent.log_takes ready] at log
      cases log

/-- A step of three seconds is cut to the two that are left, and lands on the end. -/
theorem timely_tank :
    ∃ (s₀ s : Session Extended (Recorded Extended (ScriptedState Extended)))
      (ts : List (Transition (Session Extended (Recorded Extended (ScriptedState Extended)))
        (SessionEvent Extended))) (clock : Clock Rat),
      (lts Tank.scenario [Tank.fill] (scriptedUnit Tank.metadata).recorded).init s₀ ∧
      (lts Tank.scenario [Tank.fill] (scriptedUnit Tank.metadata).recorded).Run s₀ ts s ∧
      Timely Tank.scenario clock ts s ∧ clock.time = 8 ∧ s.steps = [.finite 3, .finite 3] ∧
      (s.advance 5 .empty).1.steps = [.finite 3, .finite 3, .finite 2] := by
  let s₀ := Tank.session (scriptedUnit Tank.metadata).recorded
    { inner := Tank.state { rates := .ofList [("level_y", .finite 1)] } }
  let s₁ := ((s₀.reset none).1.advance 5 .empty).1
  let s := (s₁.advance 5 .empty).1
  let M := lts Tank.scenario [Tank.fill] (scriptedUnit Tank.metadata).recorded
  have h₀ : M.init s₀ := Tank.opened rfl _
  have hr : M.Run s₀ _ s :=
    ((LTS.Run.nil.snoc (step_reset s₀ none)).snoc (step_advance _ 5 .empty)).snoc
      (step_advance s₁ 5 .empty)
  obtain ⟨clock, h⟩ := timely Tank.scenario_valid h₀ hr
  have htime : s.committed.clock.time = .finite 8 := by decide +kernel
  have hclock : s.committed.clock.time = .finite clock.time := by rw [h.clock_eq]; rfl
  exact ⟨s₀, s, _, clock, h₀, hr, h, Extended.finite.inj (hclock.symm.trans htime),
    by decide +kernel, by decide +kernel⟩

end Session

end BuildingEmulation
