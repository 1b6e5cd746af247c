import BuildingEmulation.Proofs.Clock
import BuildingEmulation.Proofs.Kpi.Score
import BuildingEmulation.Proofs.Model.Exchange
import BuildingEmulation.Proofs.Session.Fixed
import BuildingEmulation.Proofs.Session.History

/-!
# Scores and the log

The clock, the log and the indicators of a session are kept apart, and each is moved on its own by
a committed step. `Committed.Tracked` is what keeps them in step: the log leads to the time of the
clock, the time simulated is the time since the warm-up, and every indicator is worth what the rows
say it is.

Results:
* `Tracked.record`: a recorded step keeps them in step, whether it is cut short by the end of the
  scenario or lands on it from a little way off.
* `tracked_run`: so does every run, whatever fails in it.
* `Tracked.log_takes`: the log never refuses a row.
* `scores_of_log`: all indicators can be computed from the log.
-/
namespace BuildingEmulation

variable {σ : Type}

/-- The seconds that a list of latencies adds up to. -/
def totalSeconds (latencies : List Nat) : Rat := (latencies.sum : Nat) / 1000000000

theorem totalSeconds_snoc (latencies : List Nat) (latency : Nat) :
    totalSeconds (latencies ++ [latency]) = totalSeconds latencies + secondsOf latency := by
  rw [secondsOf_exact, totalSeconds, totalSeconds, List.sum_append, List.sum_singleton]
  push_cast
  ring

namespace Committed

/-- The parts of a committed state agree: `t₀` is the end of the warm-up, `signals` are the outputs
of the unit, and `latencies` those of the steps committed since the window began. -/
structure Tracked (t₀ : Rat) (signals : List OutputSignal) (latencies : List Nat)
    (c : Committed Rat) : Prop where
  step_pos : 0 < c.clock.step
  before : c.lifecycle = .ready → c.clock.time < c.clock.stop
  blank : c.lifecycle = .uninitialized → c.results.toList = []
  time : c.lifecycle ≠ .uninitialized → c.clock.time = lastTime t₀ c.results.toList
  later : c.lifecycle ≠ .uninitialized → t₀ ≤ c.clock.time
  simulated : c.lifecycle ≠ .uninitialized → c.kpis.simulated = c.clock.time - t₀
  computed : c.lifecycle ≠ .uninitialized → c.kpis.computed = totalSeconds latencies
  rows : ∀ row ∈ c.results.toList, Model.Observes row.values signals
  values : ∀ k ∈ c.kpis.kpis,
    k.value = k.indicator.score t₀ c.results.toList (totalSeconds latencies)

variable {t₀ : Rat} {signals : List OutputSignal} {latencies latencies' : List Nat}
  {c : Committed Rat}

/-- Without rows nothing has been scored, whatever the latencies are. -/
theorem values_reset {rows : List (ResultRow Rat)} (hr : rows = []) (computed : Rat)
    (kpis : KpiCalculator Rat) :
    ∀ k ∈ kpis.reset.kpis, k.value = k.indicator.score t₀ rows computed := by
  intro k hk
  obtain ⟨k', -, rfl⟩ := List.mem_map.1 hk
  rw [hr, Indicator.score_nil]
  exact zero_exact

theorem Tracked.fail (h : c.Tracked t₀ signals latencies) (ready : c.lifecycle = .ready)
    (inFlight : Bool) : (c.fail inFlight).Tracked t₀ signals latencies := by
  cases inFlight with
  | false => exact h
  | true =>
    have hi : c.lifecycle ≠ .uninitialized := by rw [ready]; exact Lifecycle.noConfusion
    exact ⟨h.step_pos, Lifecycle.noConfusion, Lifecycle.noConfusion, fun _ => h.time hi,
      fun _ => h.later hi, fun _ => h.simulated hi, fun _ => h.computed hi, h.rows, h.values⟩

theorem Tracked.abandon (h : c.Tracked t₀ signals latencies) :
    c.abandon.Tracked t₀ signals latencies' where
  step_pos := h.step_pos
  before := Lifecycle.noConfusion
  blank _ := rfl
  time hi := absurd rfl hi
  later hi := absurd rfl hi
  simulated hi := absurd rfl hi
  computed hi := absurd rfl hi
  rows := fun _ hm => nomatch hm
  values := values_reset rfl _ _

theorem Tracked.opened (h : c.Tracked t₀ signals latencies) {step : Option Rat}
    (hs : checkStep step = .ok ()) (hw : c.clock.warmupEnd = t₀) (hb : t₀ < c.clock.stop)
    (outputs : SignalMap Rat) (id : SessionId) :
    (c.opened step outputs id).Tracked t₀ signals [] where
  step_pos := by
    cases step with
    | none => exact h.step_pos
    | some step => exact Clock.checkStep_pos (mapError_eq_ok hs)
  before _ := by rw [← hw] at hb; exact hb
  blank := Lifecycle.noConfusion
  time _ := hw
  later _ := hw.ge
  simulated _ := by
    change (0.0 : Rat) = c.clock.warmupEnd - t₀
    rw [hw, sub_self]
    exact zero_exact
  computed _ := by
    change (0.0 : Rat) = totalSeconds []
    rw [totalSeconds, List.sum_nil, Nat.cast_zero, zero_div]
    exact zero_exact
  rows := fun _ hm => nomatch hm
  values := values_reset rfl _ _

theorem Tracked.withStep (h : c.Tracked t₀ signals latencies) {step : Rat} (hs : 0 < step) :
    (c.withStep step).Tracked t₀ signals latencies :=
  ⟨hs, h.before, h.blank, h.time, h.later, h.simulated, h.computed, h.rows, h.values⟩

theorem Tracked.record (h : c.Tracked t₀ signals latencies) (ready : c.lifecycle = .ready)
    (inputs : SignalMap Rat) {outputs : SignalMap Rat} (observed : Model.Observes outputs signals)
    (known : ∀ k ∈ c.kpis.indicators, ∀ s ∈ k.signals, s ∈ signals.map (·.name)) (latency : Nat) :
    (c.record inputs outputs latency).Tracked t₀ signals (latencies ++ [latency]) := by
  have hi : c.lifecycle ≠ .uninitialized := by rw [ready]; exact Lifecycle.noConfusion
  have running : c.clock.Running := ⟨h.before ready, h.step_pos⟩
  have hlater : c.clock.time < c.move.time := running.preview_later
  have hrows : (c.record inputs outputs latency).results.toList =
      c.results.toList ++ [c.nextRow inputs outputs] := Array.toList_push
  -- an input may carry the name of an output, but the row keeps what was observed
  have hrow : ∀ {name x}, outputs.get? name = some x →
      (c.nextRow inputs outputs).values.get? name = some x := by
    intro name x hx
    change (inputs.overwrite outputs).get? name = some x
    rw [SignalMap.get?_overwrite, hx]; rfl
  have hsim : c.kpis.simulated + c.move.elapsed = (c.nextRow inputs outputs).time - t₀ := by
    rw [h.simulated hi, nextRow, move, Clock.preview_elapsed]
    ring
  have hcomp : c.kpis.computed + secondsOf latency = totalSeconds (latencies ++ [latency]) := by
    rw [totalSeconds_snoc, h.computed hi]
  refine ⟨h.step_pos, ?_, ?_, ?_, ?_, ?_, ?_, ?_, ?_⟩
  case refine_1 =>
    intro hr
    cases he : c.move.reachedEnd with
    | true =>
      have hl : (c.record inputs outputs latency).lifecycle = .scenarioEnded := by
        simp only [Committed.record, he, if_true]
      rw [hl] at hr; cases hr
    | false => exact (Clock.preview_before he).2
  case refine_2 =>
    intro hu
    have hl : (c.record inputs outputs latency).lifecycle =
        if c.move.reachedEnd then .scenarioEnded else c.lifecycle := rfl
    rw [hl, ready] at hu
    split at hu <;> cases hu
  case refine_3 => intro _; rw [hrows, lastTime_snoc]; rfl
  case refine_4 => intro _; exact (h.later hi).trans hlater.le
  case refine_5 => intro _; exact hsim
  case refine_6 => intro _; exact hcomp
  case refine_7 =>
    rw [hrows]
    intro row hm
    rcases List.mem_append.1 hm with hm | hm
    · exact h.rows row hm
    · rw [List.mem_singleton.1 hm]
      intro s hs
      obtain ⟨x, hx⟩ := Option.isSome_iff_exists.1 (observed s hs)
      rw [hrow hx]; rfl
  case refine_8 =>
    intro k hk
    obtain ⟨k', hk', rfl⟩ := List.mem_map.1 hk
    have logged : k'.indicator.Logged outputs (c.nextRow inputs outputs) := by
      intro s hs
      obtain ⟨signal, hm, rfl⟩ := List.mem_map.1 (known _ (List.mem_map_of_mem hk') s hs)
      obtain ⟨x, hx⟩ := Option.isSome_iff_exists.1 (observed signal hm)
      exact ⟨x, hx, hrow hx⟩
    have start : (c.sample outputs latency).startTime = lastTime t₀ c.results.toList := h.time hi
    have elapsed : (c.sample outputs latency).elapsed =
        (c.nextRow inputs outputs).time - lastTime t₀ c.results.toList := by
      rw [← h.time hi]
      exact c.clock.preview_elapsed c.clock.plan
    change k'.indicator.after k'.value (c.sample outputs latency)
      (c.kpis.computed + secondsOf latency) (c.kpis.simulated + c.move.elapsed) = _
    rw [hrows, hsim, hcomp, h.values k' hk']
    exact Indicator.score_snoc start elapsed logged ((h.later hi).trans_lt hlater)

/-- The log takes every row that a ready session comes to, so no commit is ever refused. -/
theorem Tracked.log_takes (h : c.Tracked t₀ signals latencies) (ready : c.lifecycle = .ready) :
    c.results.checkNext c.move.time = .ok () := by
  have hi : c.lifecycle ≠ .uninitialized := by rw [ready]; exact Lifecycle.noConfusion
  have running : c.clock.Running := ⟨h.before ready, h.step_pos⟩
  have hlater : c.clock.time < c.move.time := running.preview_later
  have ht := h.time hi
  unfold ResultsLog.checkNext ResultsLog.last?
  cases hb : c.results.rows.back? with
  | none => rfl
  | some last =>
    have hl : lastTime t₀ c.results.toList = last.time := by
      rw [lastTime, ResultsLog.toList, Array.getLast?_toList, hb]; rfl
    have hn : ¬ c.move.time ≤ last.time := by rw [← hl, ← ht]; exact not_le.2 hlater
    exact if_neg hn

end Committed

namespace Session

variable {scenario : Scenario Rat} {specs : List (KpiSpec Rat)} {unit : EmulationUnit Rat σ}
  {s₀ s s' : Session Rat σ} {ts : List (Transition (Session Rat σ) (SessionEvent Rat))}

/-- A session that has just been opened has nothing to keep in step. -/
theorem tracked_opened (hv : scenario.Window) (h : Opened scenario specs unit s) :
    s.committed.Tracked scenario.warmupEnd s.model.registry.outputs [] := by
  obtain ⟨-, -, -, -, kpis, hk, hc⟩ := h.parts
  obtain ⟨-, hz⟩ := KpiCalculator.ofSpecs_ok hk
  rw [hc]
  refine ⟨hv.step_pos, Lifecycle.noConfusion, fun _ => rfl, fun hi => absurd rfl hi,
    fun hi => absurd rfl hi, fun hi => absurd rfl hi, fun hi => absurd rfl hi,
    fun _ hm => (nomatch hm), ?_⟩
  change ∀ k ∈ kpis.kpis, _
  rw [hz]
  exact Committed.values_reset rfl _ _

theorem tracked_step (hv : scenario.Window) (hf : Fixed scenario specs unit s)
    {e : SessionEvent Rat}
    (h : s.committed.Tracked scenario.warmupEnd s.model.registry.outputs (latencies ts))
    (hs : s.Step e s') :
    s'.committed.Tracked scenario.warmupEnd s'.model.registry.outputs
      (latencies (ts ++ [⟨s, e, s'⟩])) := by
  obtain ⟨-, hm⟩ := hs.frame
  have hc := hs.change
  rw [hm, latencies_snoc]
  generalize s'.worker = w at hc
  generalize s'.committed = c at hc
  cases hc with
  | refused | uncommitted | resetRefused | stepRefused | released =>
    simpa [SessionEvent.begins, SessionEvent.latency?] using h
  | failed ready =>
    simpa [SessionEvent.begins, SessionEvent.latency?] using h.fail ready _
  | resetFailed => exact h.abandon
  | stepSet valid =>
    simpa [SessionEvent.begins, SessionEvent.latency?] using
      h.withStep (Clock.checkStep_pos valid)
  | begun valid =>
    have hb : scenario.warmupEnd < s.committed.clock.stop := by rw [hf.stop_eq]; exact hv.lt_stop
    exact h.opened valid hf.warmupEnd_eq hb _ _
  | @advanced latency inputs _ outputs ready valid run log =>
    obtain ⟨st, st', -, hx, -⟩ := Worker.run_ok run
    have observed : Model.Observes outputs s.model.registry.outputs := by
      have ho := s.model.exchange_answered inputs s.committed.clock.plan st trivial
      rw [hx] at ho
      exact ho
    exact h.record ready inputs observed hf.known latency

/-- Along every run the clock, the log and the indicators stay in step. -/
theorem tracked_run (hv : scenario.Window) (h₀ : (lts scenario specs unit).init s₀)
    (hr : (lts scenario specs unit).Run s₀ ts s) :
    Fixed scenario specs unit s ∧
      s.committed.Tracked scenario.warmupEnd s.model.registry.outputs (latencies ts) := by
  refine hr.invariant (P := fun ts s => Fixed scenario specs unit s ∧
    s.committed.Tracked scenario.warmupEnd s.model.registry.outputs (latencies ts)) ?_ ?_
  · exact ⟨(fixed_inductive scenario specs unit).init s₀ h₀, tracked_opened hv h₀⟩
  · intro ts s e s' ⟨hf, ht⟩ hs
    exact ⟨(fixed_inductive scenario specs unit).step s e s' hf hs, tracked_step hv hf ht hs⟩

/-- The record of an indicator that is worth this much. -/
def recordOf (k : Indicator Rat) (value : Rat) : KpiRecord Rat where
  name := k.name
  unit := k.unit
  value := value
  cumulative := k.isCumulative

/-- Whatever the run, the reported indicators are the resolved definitions, in order, and each is
worth what the rows of the log say it is; with no rows that is nothing. The rows leave no signal
of an indicator out. -/
theorem scores_of_log (hv : scenario.validate = .ok ()) (h₀ : (lts scenario specs unit).init s₀)
    (hr : (lts scenario specs unit).Run s₀ ts s) :
    ∃ indicators, specs.mapM (KpiSpec.resolve s.model.registry) = .ok indicators ∧
      s.kpiRecords = indicators.map (fun k => recordOf k
        (k.score scenario.warmupEnd s.committed.results.toList (totalSeconds (latencies ts)))) ∧
      (∀ k ∈ indicators, ∀ name ∈ k.signals, ∀ row ∈ s.committed.results.toList,
        (row.values.get? name).isSome) ∧
      (s.committed.results.toList = [] → ∀ k ∈ s.kpiRecords, k.value = 0) := by
  obtain ⟨hf, ht⟩ := tracked_run (Scenario.validate_window hv) h₀ hr
  have hk : s.kpiRecords = s.committed.kpis.indicators.map (fun k => recordOf k
      (k.score scenario.warmupEnd s.committed.results.toList (totalSeconds (latencies ts)))) := by
    rw [kpiRecords, KpiCalculator.records, KpiCalculator.indicators, List.map_map]
    refine List.map_congr_left fun k hm => ?_
    rw [Function.comp_apply, ← ht.values k hm]
    rfl
  refine ⟨s.committed.kpis.indicators, hf.indicators_ok, hk, ?_, ?_⟩
  · intro k hm name hn row hrow
    obtain ⟨signal, hs, rfl⟩ := List.mem_map.1 (hf.known k hm name hn)
    exact ht.rows row hrow signal hs
  · intro hrows k hm
    rw [hk] at hm
    obtain ⟨k', -, rfl⟩ := List.mem_map.1 hm
    rw [hrows]
    exact k'.score_nil _ _

/-- A tank that fills by one a second: after a reset and a step of three seconds from level four,
the one row holds level seven, and the indicator is worth three times that. -/
theorem scores_of_log_tank :
    ∃ (s₀ s : Session Rat (ScriptedState Rat))
      (ts : List (Transition (Session Rat (ScriptedState Rat)) (SessionEvent Rat))),
      (lts Sample.scenario [Sample.fill] (scriptedUnit Sample.metadata)).init s₀ ∧
      (lts Sample.scenario [Sample.fill] (scriptedUnit Sample.metadata)).Run s₀ ts s ∧
      (∃ indicators, [Sample.fill].mapM (KpiSpec.resolve s.model.registry) = .ok indicators ∧
        s.kpiRecords = indicators.map (fun k => recordOf k
          (k.score 2 s.committed.results.toList (totalSeconds (latencies ts))))) ∧
      s.committed.results.toList.map (·.reading "level_y") = [7] ∧
      s.kpiRecords.map (·.value) = [21] := by
  let s₀ := Sample.session (scriptedUnit Sample.metadata)
    (Sample.state { rates := .ofList [("level_y", 1)] })
  let M := lts Sample.scenario [Sample.fill] (scriptedUnit Sample.metadata)
  have h₀ : M.init s₀ := Sample.opened rfl _
  have hr : M.Run s₀ _ _ := (LTS.Run.nil.snoc (step_reset s₀ none)).snoc (step_advance _ 5 .empty)
  obtain ⟨indicators, hi, hk, -, -⟩ := scores_of_log Sample.scenario_valid h₀ hr
  have hw : Sample.scenario.warmupEnd = 2 := by decide +kernel
  rw [hw] at hk
  exact ⟨s₀, _, _, h₀, hr, ⟨indicators, hi, hk⟩, by decide +kernel, by decide +kernel⟩

end Session

end BuildingEmulation
