import BuildingEmulation.Proofs.Clock.Extended
import BuildingEmulation.Proofs.Session.Fixed
import BuildingEmulation.Proofs.Session.History

/-!
# The parts of a committed state agree

The clock, the rows, the indicators and the lifecycle of a session are moved by every call on their
own. What they have in common is a clock in exact arithmetic and the times of the rows: before a
window has begun nothing is recorded, and in one the rows lead from the end of the warm-up to the
time of the clock, which ends the scenario exactly when it reaches its end.

Results:
* `Coherent.record`: a recorded step moves the clock to its next time, and all parts with it.
* `Coherent.log_takes`: the log never refuses that row.
* `coherent_step`, `coherent_run`: every step of every run keeps the parts in agreement.
-/
namespace BuildingEmulation

open Scalar (Extended)

namespace Committed

/-- Nothing is recorded, and the clock stands at the start of the scenario. -/
structure Blank {α : Type} [Scalar α] (c : Committed α) : Prop where
  uninitialized : c.clock.initialized = false
  id_none : c.id = none
  time_eq : c.clock.time = c.clock.start
  rows_nil : c.results.toList = []
  measurements_eq : c.measurements = .empty
  kpis_eq : c.kpis = c.kpis.reset

/-- A window has begun, and its rows have led to the time of the clock. -/
structure Begun (clock : Clock Rat) (times : List Rat) (c : Committed Extended) : Prop where
  initialized : clock.initialized = true
  id_some : c.id.isSome
  increasing : (clock.warmupEnd :: times).Pairwise (· < ·)
  upTo : ∀ t ∈ clock.warmupEnd :: times, t ≤ clock.time
  last : clock.time = times.getLast?.getD clock.warmupEnd
  le_stop : clock.time ≤ clock.stop
  ended : c.lifecycle = .scenarioEnded ↔ clock.time = clock.stop
  simulated : c.kpis.simulated = .finite (clock.time - clock.warmupEnd)

/-- The parts of a committed state agree with a clock in exact arithmetic and with the times of the
rows. -/
structure Coherent (clock : Clock Rat) (times : List Rat) (c : Committed Extended) : Prop where
  clock_eq : c.clock = clock.extended
  rows_eq : c.results.toList.map (·.time) = times.map .finite
  start_le : clock.start ≤ clock.warmupEnd
  lt_stop : clock.warmupEnd < clock.stop
  step_pos : 0 < clock.step
  blank : c.lifecycle = .uninitialized → c.Blank
  begun : c.lifecycle ≠ .uninitialized → c.Begun clock times

variable {clock : Clock Rat} {times : List Rat} {c : Committed Extended}

theorem initialized_of_ready (ready : c.lifecycle = .ready) : c.lifecycle ≠ .uninitialized := by
  rw [ready]
  exact Lifecycle.noConfusion

theorem Coherent.running (h : c.Coherent clock times) (ready : c.lifecycle = .ready) :
    clock.Running where
  before := by
    have hb := h.begun (initialized_of_ready ready)
    refine lt_of_le_of_ne hb.le_stop fun he => ?_
    have := hb.ended.2 he
    rw [ready] at this; cases this
  step_pos := h.step_pos

/-- Where the next advance leads. -/
theorem Coherent.move_eq (h : c.Coherent clock times) (ready : c.lifecycle = .ready) :
    c.move.time = .finite clock.next ∧ c.move.elapsed = .finite (clock.next - clock.time) ∧
      (c.move.reachedEnd = true ↔ clock.next = clock.stop) := by
  obtain ⟨htime, helapsed, hend⟩ := (h.running ready).next_eq
  unfold move
  rw [h.clock_eq, clock.plan_extended, clock.preview_extended, htime, helapsed]
  exact ⟨rfl, rfl, hend⟩

/-- The log takes the row of every advance of a ready session. -/
theorem Coherent.log_takes (h : c.Coherent clock times) (ready : c.lifecycle = .ready) :
    c.results.checkNext c.move.time = .ok () := by
  have hb := h.begun (initialized_of_ready ready)
  unfold ResultsLog.checkNext ResultsLog.last?
  cases hl : c.results.rows.back? with
  | none => rfl
  | some row =>
    have hm : row ∈ c.results.toList := by
      rw [← Array.getLast?_toList] at hl
      exact List.mem_of_getLast? hl
    have ht : row.time ∈ times.map Extended.finite := by
      rw [← h.rows_eq]
      exact List.mem_map_of_mem hm
    obtain ⟨t, ht, he⟩ := List.mem_map.1 ht
    have hle : t ≤ clock.time := hb.upTo t (List.mem_cons_of_mem _ ht)
    have hlt : clock.time < clock.next := (h.running ready).next_later
    have hn : ¬ c.move.time ≤ row.time := by
      rw [(h.move_eq ready).1, ← he, Extended.finite_le]
      exact not_le.2 (hle.trans_lt hlt)
    exact if_neg hn

/-- The rows lead on from the end of the warm-up and not past the end of the scenario. Before a
window has begun there are none. -/
theorem Coherent.ordered (h : c.Coherent clock times) :
    (clock.warmupEnd :: times).Pairwise (· < ·) ∧ ∀ t ∈ times, t ≤ clock.stop := by
  by_cases hl : c.lifecycle = .uninitialized
  · have hrows := h.rows_eq
    rw [(h.blank hl).rows_nil] at hrows
    rw [List.map_eq_nil_iff.1 hrows.symm]
    exact ⟨List.pairwise_singleton _ _, fun _ hm => nomatch hm⟩
  · have hb := h.begun hl
    exact ⟨hb.increasing, fun t ht => (hb.upTo t (List.mem_cons_of_mem _ ht)).trans hb.le_stop⟩

theorem Coherent.initialized_iff (h : c.Coherent clock times) :
    c.clock.initialized = true ↔ c.lifecycle ≠ .uninitialized := by
  constructor
  · intro hi hl
    rw [(h.blank hl).uninitialized] at hi
    cases hi
  · intro hl
    rw [h.clock_eq]
    exact (h.begun hl).initialized

/-- Nothing recorded is worth nothing. -/
theorem Blank.records_zero {α : Type} [Scalar α] {c : Committed α} (h : c.Blank) :
    ∀ k ∈ c.kpis.records, k.value = 0.0 := by
  intro k hk
  rw [h.kpis_eq, KpiCalculator.records, KpiCalculator.reset, List.map_map] at hk
  obtain ⟨k', -, rfl⟩ := List.mem_map.1 hk
  rfl

/-! ## What the operations keep -/

/-- Before the first reset. -/
theorem coherent_fresh {scenario : Scenario Rat} (hv : scenario.Window)
    {kpis : KpiCalculator Extended} (hk : kpis = kpis.reset) :
    (fresh scenario.extended kpis).Coherent (.ofScenario scenario) [] where
  clock_eq := Clock.ofScenario_extended scenario
  rows_eq := rfl
  start_le := hv.start_le
  lt_stop := hv.lt_stop
  step_pos := hv.step_pos
  blank _ := ⟨rfl, rfl, rfl, rfl, rfl, hk⟩
  begun hi := absurd rfl hi

theorem Coherent.fail (h : c.Coherent clock times) (ready : c.lifecycle = .ready)
    (inFlight : Bool) : (c.fail inFlight).Coherent clock times := by
  cases inFlight with
  | false => exact h
  | true =>
    have hb := h.begun (initialized_of_ready ready)
    have before := (h.running ready).before
    refine ⟨h.clock_eq, h.rows_eq, h.start_le, h.lt_stop, h.step_pos, Lifecycle.noConfusion,
      fun _ => ⟨hb.initialized, hb.id_some, hb.increasing, hb.upTo, hb.last, hb.le_stop, ?_,
        hb.simulated⟩⟩
    exact ⟨Lifecycle.noConfusion, fun he => absurd he before.ne⟩

theorem Coherent.abandon (h : c.Coherent clock times) :
    c.abandon.Coherent { clock with time := clock.start, initialized := false } [] where
  clock_eq := by
    change c.clock.invalidate = _
    rw [h.clock_eq]; rfl
  rows_eq := rfl
  start_le := h.start_le
  lt_stop := h.lt_stop
  step_pos := h.step_pos
  blank _ := ⟨rfl, rfl, rfl, rfl, rfl, by
    simp [Committed.abandon, clear, KpiCalculator.reset, Function.comp_def]⟩
  begun hi := absurd rfl hi

/-- A window begins, with a step that is still or newly in force. -/
theorem Coherent.opened (h : c.Coherent clock times) {step : Option Extended} {q : Rat}
    (hq : step.getD c.clock.step = .finite q) (pos : 0 < q) (outputs : SignalMap Extended)
    (id : SessionId) :
    (c.opened step outputs id).Coherent
      { clock with step := q, time := clock.warmupEnd, initialized := true } [] where
  clock_eq := by
    change { c.clock with
      step := step.getD c.clock.step, time := c.clock.warmupEnd, initialized := true } = _
    rw [hq, h.clock_eq]; rfl
  rows_eq := rfl
  start_le := h.start_le
  lt_stop := h.lt_stop
  step_pos := pos
  blank := Lifecycle.noConfusion
  begun _ :=
    { initialized := rfl
      id_some := rfl
      increasing := List.pairwise_singleton _ _
      upTo := fun t ht => (List.mem_singleton.1 ht).le
      last := rfl
      le_stop := h.lt_stop.le
      ended := ⟨Lifecycle.noConfusion, fun he => absurd he h.lt_stop.ne⟩
      simulated := by rw [sub_self]; exact Extended.zero_finite }

theorem Coherent.withStep (h : c.Coherent clock times) {q : Rat} (pos : 0 < q) :
    (c.withStep (.finite q)).Coherent { clock with step := q } times where
  clock_eq := by
    change { c.clock with step := .finite q } = _
    rw [h.clock_eq]; rfl
  rows_eq := h.rows_eq
  start_le := h.start_le
  lt_stop := h.lt_stop
  step_pos := pos
  blank hl := by
    obtain ⟨hi, hid, ht, hr, hm, hk⟩ := h.blank hl
    exact ⟨hi, hid, ht, hr, hm, hk⟩
  begun hl := by
    obtain ⟨hi, hid, hinc, hup, hlast, hle, he, hs⟩ := h.begun hl
    exact ⟨hi, hid, hinc, hup, hlast, hle, he, hs⟩

theorem Begun.record (h : c.Coherent clock times) (ready : c.lifecycle = .ready)
    (inputs outputs : SignalMap Extended) (latency : Nat) :
    (c.record inputs outputs latency).Begun { clock with time := clock.next }
      (times ++ [clock.next]) := by
  have hb := h.begun (initialized_of_ready ready)
  have running := h.running ready
  have hlt : clock.time < clock.next := running.next_later
  obtain ⟨-, helapsed, hend⟩ := h.move_eq ready
  exact
    { initialized := hb.initialized
      id_some := hb.id_some
      increasing := by
        rw [← List.cons_append, List.pairwise_append]
        refine ⟨hb.increasing, List.pairwise_singleton _ _, fun t ht t' ht' => ?_⟩
        rw [List.mem_singleton.1 ht']
        exact (hb.upTo t ht).trans_lt hlt
      upTo := by
        rw [← List.cons_append]
        intro t ht
        rcases List.mem_append.1 ht with ht | ht
        · exact (hb.upTo t ht).trans hlt.le
        · exact (List.mem_singleton.1 ht).le
      last := by rw [List.getLast?_concat]; rfl
      le_stop := clock.next_le
      ended := by
        -- the flag of the move is what `next_eq` says of the end
        change (if c.move.reachedEnd then Lifecycle.scenarioEnded else c.lifecycle) = _ ↔ _
        rw [ready]
        cases hm : c.move.reachedEnd with
        | true => exact ⟨fun _ => hend.1 hm, fun _ => rfl⟩
        | false =>
          refine ⟨fun hl => (nomatch hl), fun he => ?_⟩
          rw [hend.2 he] at hm; cases hm
      simulated := by
        change c.kpis.simulated + c.move.elapsed = _
        rw [hb.simulated, helapsed, Extended.finite_add]
        congr 1
        ring }

/-- A recorded step moves every part to the next time of the clock. -/
theorem Coherent.record (h : c.Coherent clock times) (ready : c.lifecycle = .ready)
    (inputs outputs : SignalMap Extended) (latency : Nat) :
    (c.record inputs outputs latency).Coherent { clock with time := clock.next }
      (times ++ [clock.next]) where
  clock_eq := by
    have hnext := (h.running ready).next_eq.1
    change c.clock.advance c.clock.plan = _
    rw [h.clock_eq, clock.plan_extended, clock.advance_extended, Clock.advance, hnext]
  rows_eq := by
    have hrows : (c.record inputs outputs latency).results.toList =
        c.results.toList ++ [c.nextRow inputs outputs] := Array.toList_push
    rw [hrows, List.map_append, h.rows_eq, List.map_append]
    exact congrArg (_ ++ [·]) (h.move_eq ready).1
  start_le := h.start_le
  lt_stop := h.lt_stop
  step_pos := h.step_pos
  blank hl := by
    change (if c.move.reachedEnd then Lifecycle.scenarioEnded else c.lifecycle) = _ at hl
    rw [ready] at hl
    split at hl <;> cases hl
  begun _ := .record h ready inputs outputs latency

end Committed

/-! ## Runs -/

namespace Session

variable {σ : Type} {scenario : Scenario Rat} {specs : List (KpiSpec Extended)}
  {unit : EmulationUnit Extended σ} {s s' : Session Extended σ}

theorem coherent_step {clock : Clock Rat} {times : List Rat}
    (h : s.committed.Coherent clock times) {e : SessionEvent Extended} (hs : s.Step e s') :
    ∃ clock' times', s'.committed.Coherent clock' times' := by
  have hc := hs.change
  generalize s'.worker = w at hc
  generalize s'.committed = c at hc
  cases hc with
  | refused | uncommitted | resetRefused | stepRefused | released => exact ⟨clock, times, h⟩
  | failed ready => exact ⟨clock, times, h.fail ready _⟩
  | resetFailed => exact ⟨_, _, h.abandon⟩
  | stepSet valid =>
    obtain ⟨q, rfl, pos⟩ := Clock.checkStep_extended valid
    exact ⟨_, _, h.withStep pos⟩
  | advanced ready => exact ⟨_, _, h.record ready _ _ _⟩
  | @begun step _ outputs valid run =>
    cases step with
    | none =>
      have hq : (none : Option Extended).getD s.committed.clock.step = .finite clock.step := by
        rw [h.clock_eq]; rfl
      exact ⟨_, _, h.opened hq h.step_pos _ _⟩
    | some step =>
      obtain ⟨q, rfl, pos⟩ := Clock.checkStep_extended (mapError_eq_ok valid)
      exact ⟨_, _, h.opened rfl pos _ _⟩

theorem coherent_inductive (hv : scenario.Window) :
    (lts scenario.extended specs unit).Inductive
      fun s => ∃ clock times, s.committed.Coherent clock times where
  init s h := by
    obtain ⟨-, -, -, -, kpis, hk, hc⟩ := Opened.parts h
    rw [hc]
    exact ⟨_, _, Committed.coherent_fresh hv (KpiCalculator.ofSpecs_ok hk).2⟩
  step := by
    rintro s e s' ⟨clock, times, h⟩ hs
    exact coherent_step h hs

/-- Along every run the parts agree, and the clock runs in the window of the scenario. -/
theorem coherent_run {s₀ : Session Extended σ}
    {ts : List (Transition (Session Extended σ) (SessionEvent Extended))} (hv : scenario.Window)
    (h₀ : (lts scenario.extended specs unit).init s₀)
    (hr : (lts scenario.extended specs unit).Run s₀ ts s) :
    ∃ clock times, s.committed.Coherent clock times ∧ clock.start = scenario.start ∧
      clock.warmupEnd = scenario.warmupEnd ∧ clock.stop = scenario.stop := by
  obtain ⟨clock, times, h⟩ :=
    (coherent_inductive hv).run hr ((coherent_inductive hv).init s₀ h₀)
  have fixed := fixed_run h₀ hr
  have hstart := fixed.start_eq
  have hwarmup := fixed.warmupEnd_eq
  have hstop := fixed.stop_eq
  rw [h.clock_eq] at hstart hwarmup hstop
  exact ⟨clock, times, h, Extended.finite.inj hstart, Extended.finite.inj hwarmup,
    Extended.finite.inj hstop⟩

end Session

end BuildingEmulation
