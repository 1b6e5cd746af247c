import BuildingEmulation.Proofs.Clock
import BuildingEmulation.Proofs.Decimal
import BuildingEmulation.Proofs.Session.Fixed
import BuildingEmulation.Proofs.SignalMap
import BuildingEmulation.Proofs.Zone.Exchange

/-!
# Baselines of the zone

A baseline lets the zone run through a scenario by itself: a reset, and then advances without inputs
until the end. If the steps of the scenario and its scored window last whole minutes, every row
stands at a whole minute, however long the steps are, and records what the zone has come to in as
many substeps from the end of the warm-up on. So the rows of two baselines with other steps agree
where their times do.

Results:
* `Clock.plan_minutes`: a step that is cut by the end of the scenario still lasts whole minutes.
* `Session.OnMinutes.advance`, `Session.baseline_shown`: what an advance keeps, and what a run to the
  end has recorded.
* `Session.trajectory_by_minutes`: steps, warm-ups and baselines together.
-/
namespace BuildingEmulation

/-! ## Clocks at whole minutes -/

/-- How many whole minutes an instant lies behind another one. -/
def minutesFrom (t₀ t : Rat) : Nat := ((t - t₀) / 60).floor.toNat

theorem minutesFrom_add (t₀ : Rat) (m : Int) : minutesFrom t₀ (t₀ + 60 * m) = m.toNat := by
  have hq : (t₀ + 60 * (m : Rat) - t₀) / 60 = (m : Rat) := by ring
  unfold minutesFrom
  rw [hq, Rat.floor_intCast]

namespace Clock

variable {c : Clock Rat} {t₀ : Rat} {n : Nat} {k m : Int}

/-- The next step lasts whole minutes, and no time if there is none left. -/
theorem plan_whole (step : c.step = 60 * k) (left : c.stop - c.time = 60 * m) :
    c.plan = 60 * ((min k m).toNat : Nat) := by
  have hcast : ((min k m).toNat : Rat) = ((max (min k m) 0 : Int) : Rat) := by
    have hint : ((min k m).toNat : Int) = max (min k m) 0 := by omega
    exact_mod_cast hint
  have h60 : (0 : Rat) ≤ 60 := by norm_num
  rw [plan_eq, hcast, step, left, Int.cast_max, Int.cast_min, Int.cast_zero,
    ← mul_min_of_nonneg _ _ h60, mul_max_of_nonneg _ _ h60, mul_zero]

/-- A step of whole minutes, or what is left of a window that lasts whole minutes, leads to whole
minutes again. -/
theorem plan_minutes (time : c.time = t₀ + 60 * n) (step : c.step = 60 * k)
    (stop : c.stop = t₀ + 60 * m) (hn : n ≤ m.toNat) :
    ∃ j : Nat, c.plan = 60 * j ∧ n + j ≤ m.toNat ∧
      minutesFrom t₀ (c.preview c.plan).time = n + j ∧
      ((c.preview c.plan).reachedEnd = false →
        (c.preview c.plan).time = t₀ + 60 * (n + j : Nat)) := by
  have hleft : c.stop - c.time = 60 * ((m - n : Int) : Rat) := by
    rw [stop, time]
    push_cast
    ring
  have hplan := plan_whole step hleft
  generalize hj : (min k (m - n)).toNat = j at hplan
  have hle : n + j ≤ m.toNat := by omega
  have htarget : c.time + c.plan = t₀ + 60 * ((n + j : Nat) : Rat) := by
    rw [time, hplan]
    push_cast
    ring
  refine ⟨j, hplan, hle, ?_⟩
  rcases c.preview_cases c.plan with ⟨hend, hp⟩ | ⟨-, hp⟩
  · -- less than a minute before the end there is no whole minute
    have hreach : m ≤ ((n + j : Nat) : Int) := by
      by_contra hlt
      have hgap : ((n + j : Nat) : Rat) + 1 ≤ (m : Rat) := by
        have hint : ((n + j : Nat) : Int) + 1 ≤ m := by omega
        exact_mod_cast hint
      have htolerance : (Calendar.timeTolerance : Rat) < 60 := by
        change (1e-6 : Rat) < 60
        norm_num
      rw [htarget, stop] at hend
      linarith
    rw [hp]
    refine ⟨?_, fun h => nomatch h⟩
    change minutesFrom t₀ c.stop = n + j
    rw [stop, minutesFrom_add]
    omega
  · rw [hp]
    refine ⟨?_, fun _ => htarget⟩
    change minutesFrom t₀ (c.time + c.plan) = n + j
    rw [htarget]
    exact minutesFrom_add t₀ ((n + j : Nat) : Int)

end Clock

/-! ## Baselines -/

namespace Zone

variable (z : Zone Rat)

/-- The state that a warm-up ends in. -/
def warmed (start warmupEnd : Rat) : ZoneState Rat :=
  (z.integrate (warmupEnd - start) (z.start start)).state

theorem warmed_free (start warmupEnd : Rat) : Free (z.warmed start warmupEnd) := by
  obtain ⟨setpoint, power⟩ := z.integrate_overrides (warmupEnd - start) (z.start start)
  exact ⟨setpoint, power⟩

variable {z}

/-- Where the zone was before a warm-up does not matter. -/
theorem restart_warmed [Decimal.Numeral Rat] {start warmupEnd : Rat} {s s' : ZoneState Rat}
    (h : z.unit.restart start warmupEnd s = .returned s' ()) : s' = z.warmed start warmupEnd := by
  have hw : z.warmUp start warmupEnd s = .returned s' () := Progress.mapError_returned h
  unfold warmUp at hw
  split at hw
  · cases hw
  · unfold warmed
    rw [hw]
    rfl

/-- A row records what the zone has come to by itself in the minutes up to its time. -/
def Shows (z : Zone Rat) (warm : ZoneState Rat) (t₀ : Rat) (row : ResultRow Rat) : Prop :=
  ∃ s, z.substeps 60 (minutesFrom t₀ row.time) warm = .returned s () ∧ row.values = z.readings s

end Zone

namespace Session

variable [Decimal.Numeral Rat] {z : Zone Rat} {warm : ZoneState Rat} {t₀ : Rat} {m : Int}
  {scenario : Scenario Rat} {specs : List (KpiSpec Rat)} {s s' : Session Rat (ZoneState Rat)}

/-- The session is one of the zone. -/
structure Drives (z : Zone Rat) (s : Session Rat (ZoneState Rat)) : Prop where
  unit : s.model.unit = z.unit
  registry : Registry.ofMetadata z.unit.metadata = .ok s.model.registry

theorem Drives.step (h : Drives z s) {e : SessionEvent Rat} (hs : s.Step e s') : Drives z s' := by
  obtain ⟨-, hmodel⟩ := hs.frame
  exact ⟨hmodel ▸ h.unit, hmodel ▸ h.registry⟩

/-- A clock and rows that stand at whole minutes after `t₀`, when the zone was in `warm`. The
scenario lasts `m` of them. -/
structure OnMinutes (z : Zone Rat) (warm : ZoneState Rat) (t₀ : Rat) (m : Int)
    (w : Worker Rat (ZoneState Rat)) (c : Committed Rat) : Prop where
  stop : c.clock.stop = t₀ + 60 * m
  step : ∃ k : Int, c.clock.step = 60 * k
  rows : ∀ row ∈ c.results.toList, z.Shows warm t₀ row
  /-- While the session is ready the zone stands where its clock does. -/
  ready : c.lifecycle = .ready → ∃ (n : Nat) (now : ZoneState Rat),
    w = .idle now ∧ z.substeps 60 n warm = .returned now () ∧
      c.clock.time = t₀ + 60 * n ∧ n ≤ m.toNat

omit [Decimal.Numeral Rat] in
/-- What comes out of an exchange stands in the row at the time that it has led to. -/
theorem shows_nextRow {c : Committed Rat} {now : ZoneState Rat} {n : Nat}
    (whole : z.substeps 60 n warm = .returned now ()) (time : minutesFrom t₀ c.move.time = n) :
    z.Shows warm t₀ (c.nextRow .empty (z.readings now)) := by
  have hvalues : SignalMap.empty.overwrite (z.readings now) = z.readings now := by
    apply SignalMap.ext_get?
    intro name
    rw [SignalMap.get?_overwrite, SignalMap.get?_empty, Option.or_none]
  refine ⟨now, ?_, hvalues⟩
  change z.substeps 60 (minutesFrom t₀ c.move.time) warm = _
  rw [time]
  exact whole

/-- A recorded exchange keeps the clock and the rows on whole minutes. -/
theorem OnMinutes.record (h : OnMinutes z warm t₀ m s.worker s.committed) (drives : Drives z s)
    (free : Zone.Free warm) (hm : m < 2 ^ 64) (ready : s.committed.lifecycle = .ready)
    {w : Worker Rat (ZoneState Rat)} {outputs : SignalMap Rat}
    (run : s.worker.run s.scenario.stepLimit
      (s.model.exchange .empty s.committed.clock.plan) = (w, .ok outputs)) (latency : Nat) :
    OnMinutes z warm t₀ m w (s.committed.record .empty outputs latency) := by
  obtain ⟨n, now, hnow, hsub, htime, hn⟩ := h.ready ready
  obtain ⟨k, hstep⟩ := h.step
  obtain ⟨j, hplan, hle, hminutes, hnext⟩ := Clock.plan_minutes htime hstep h.stop hn
  obtain ⟨st, st', hidle, hx, rfl⟩ := Worker.run_ok run
  obtain rfl : now = st := by
    rw [hnow] at hidle
    exact Worker.idle.inj hidle
  have hfree : Zone.Free now := by
    obtain ⟨setpoint, power⟩ := z.substeps_overrides 60 n warm
    rw [hsub] at setpoint power
    exact ⟨setpoint.trans free.setpoint, power.trans free.power⟩
  rw [hplan] at hx
  obtain ⟨hmore, rfl⟩ := Zone.exchange_minutes drives.unit drives.registry hfree (by omega) hx
  have hwhole : z.substeps 60 (n + j) warm = .returned st' () := by
    rw [Zone.substeps_add, hsub]
    exact hmore
  refine ⟨h.stop, h.step, ?_, ?_⟩
  · rw [Committed.record_rows]
    intro row hrow
    rcases List.mem_append.1 hrow with hrow | hrow
    · exact h.rows row hrow
    · rw [List.mem_singleton.1 hrow]
      exact shows_nextRow hwhole hminutes
  · intro hready
    have hend := Committed.reachedEnd_of_record hready
    exact ⟨n + j, st', rfl, hwhole, hnext hend, hle⟩

/-- An advance without inputs keeps everything on whole minutes if it goes through; if it does not,
it adds no row. -/
theorem OnMinutes.advance (h : OnMinutes z warm t₀ m s.worker s.committed) (drives : Drives z s)
    (free : Zone.Free warm) (hm : m < 2 ^ 64) {latency : Nat}
    {answer : Except (SessionError Rat) (AdvanceReport Rat)}
    (hs : s.Step (.advance latency .empty answer) s') :
    (answer.isOk = true → OnMinutes z warm t₀ m s'.worker s'.committed) ∧
      ∀ row ∈ s'.committed.results.toList, z.Shows warm t₀ row := by
  have hc := hs.change
  generalize s'.worker = w at hc ⊢
  generalize s'.committed = c at hc ⊢
  cases hc with
  | refused | uncommitted => exact ⟨fun hok => (nomatch hok), h.rows⟩
  | failed =>
    obtain ⟨-, -, hresults, -⟩ := s.committed.fail_fields _
    rw [hresults]
    exact ⟨fun hok => (nomatch hok), h.rows⟩
  | advanced ready _ run =>
    have hrecord := h.record drives free hm ready run latency
    exact ⟨fun _ => hrecord, hrecord.rows⟩

/-- What a run to the end records: at every whole minute that has a row, what the zone has come to
by itself. -/
theorem runFor_shown (free : Zone.Free warm) (hm : m < 2 ^ 64) (latency : Nat → Nat) (fuel : Nat)
    (steps : Nat) (drives : Drives z s) (h : OnMinutes z warm t₀ m s.worker s.committed) :
    ∀ row ∈ (runFor latency fuel steps s).1.committed.results.toList, z.Shows warm t₀ row := by
  induction fuel generalizing steps s with
  | zero => exact h.rows
  | succ fuel ih =>
    unfold runFor
    cases ha : s.advance (latency steps) .empty with
    | mk s' answer =>
      have hs : s.Step (.advance (latency steps) .empty answer) s' := ha
      obtain ⟨hkept, hrows⟩ := h.advance drives free hm hs
      cases answer with
      | error e => exact hrows
      | ok report =>
        simp only
        split
        · exact hrows
        · exact ih _ (drives.step hs) (hkept rfl)

/-- A baseline starts at the end of the warm-up, or its warm-up has failed and it does not start. -/
theorem onMinutes_reset {step : Rat} (hstep : ∃ k : Int, step = 60 * k)
    (hstop : scenario.stop = scenario.warmupEnd + 60 * m)
    (h : Opened { scenario with step } specs z.unit s) :
    OnMinutes z (z.warmed scenario.start scenario.warmupEnd) scenario.warmupEnd m
      (s.reset none).1.worker (s.reset none).1.committed := by
  obtain ⟨hscenario, hunit, hregistry, -, kpis, -, hcommitted⟩ := Opened.parts h
  have hclock : s.committed.clock = .ofScenario { scenario with step } := by
    rw [hcommitted]
    rfl
  have stop : s.committed.clock.stop = scenario.warmupEnd + 60 * m := by
    rw [hclock]
    exact hstop
  have step : ∃ k : Int, s.committed.clock.step = 60 * k := by
    rw [hclock]
    exact hstep
  have hc := reset_change s none
  generalize (s.reset none).1.worker = w at hc ⊢
  generalize (s.reset none).1.committed = c at hc ⊢
  generalize (s.reset none).2 = answer at hc
  cases hc with
  | resetRefused valid => cases valid
  | resetFailed => exact ⟨stop, step, fun _ hrow => (nomatch hrow), Lifecycle.noConfusion⟩
  | begun _ run =>
    obtain ⟨before, now, -, hx, rfl⟩ := Worker.run_ok run
    obtain ⟨now, u, hrestart, hread⟩ := Progress.andThen_returned_cases hx
    rw [Zone.getOutputs_readings hunit hregistry] at hread
    cases hread
    have hwarm : now = z.warmed scenario.start scenario.warmupEnd := by
      apply Zone.restart_warmed (s := before)
      have hreturned := Progress.mapError_returned hrestart
      rw [hunit, hscenario] at hreturned
      exact hreturned
    refine ⟨stop, step, fun _ hrow => (nomatch hrow), fun _ => ⟨0, now, rfl, ?_, ?_, Nat.zero_le _⟩⟩
    · rw [hwarm]
      rfl
    · change s.committed.clock.warmupEnd = _
      rw [hclock, Nat.cast_zero, mul_zero, add_zero]
      rfl

/-- What a baseline records. -/
theorem baseline_shown {step : Rat} (hstep : ∃ k : Int, step = 60 * k)
    (hstop : scenario.stop = scenario.warmupEnd + 60 * m) (hm : m < 2 ^ 64)
    (h : Opened { scenario with step } specs z.unit s) (latency : Nat → Nat) :
    ∀ row ∈ ((s.reset none).1.runToEnd latency).1.committed.results.toList,
      z.Shows (z.warmed scenario.start scenario.warmupEnd) scenario.warmupEnd row := by
  obtain ⟨-, hunit, hregistry, -⟩ := Opened.parts h
  have drives : Drives z s := ⟨hunit, hregistry⟩
  have hreset : s.Step (.reset none (s.reset none).2) (s.reset none).1 := rfl
  unfold runToEnd
  exact runFor_shown (z.warmed_free _ _) hm latency _ 0 (drives.step hreset)
    (onMinutes_reset hstep hstop h)

/-- Rows at the same time have the same values of all outputs of the zone. -/
def RowsAgree (rows rows' : List (ResultRow Rat)) : Prop :=
  ∀ row ∈ rows, ∀ row' ∈ rows', row.time = row'.time →
    ∀ name ∈ ["TRooAir_y", "PHea_y", "weaTDryBul_y"],
      ∃ x, row.values.get? name = some x ∧ row'.values.get? name = some x

omit [Decimal.Numeral Rat] in
theorem rowsAgree_of_shown {rows rows' : List (ResultRow Rat)}
    (h : ∀ row ∈ rows, z.Shows warm t₀ row) (h' : ∀ row ∈ rows', z.Shows warm t₀ row) :
    RowsAgree rows rows' := by
  intro row hrow row' hrow' htime name hname
  obtain ⟨now, hnow, hvalues⟩ := h row hrow
  obtain ⟨now', hnow', hvalues'⟩ := h' row' hrow'
  obtain rfl : now = now' := by
    rw [htime, hnow'] at hnow
    cases hnow
    rfl
  obtain ⟨temperature, heating, outdoor⟩ := z.readings_get? now
  rw [hvalues, hvalues']
  simp only [List.mem_cons, List.not_mem_nil, or_false] at hname
  rcases hname with rfl | rfl | rfl
  · exact ⟨_, temperature, temperature⟩
  · exact ⟨_, heating, heating⟩
  · exact ⟨_, outdoor, outdoor⟩

/-- What the zone goes through does not depend on how its minutes are cut into steps. Steps that last
whole minutes, made one after the other up to the first that fails, are one step of all their
minutes; a warm-up is a start without one and then a step; and the baselines of scenarios that
differ in their steps agree. -/
theorem trajectory_by_minutes (z : Zone Rat) :
    (∀ (durations : List Rat) (s : ZoneState Rat), (∀ d ∈ durations, ∃ n : Nat, d = 60 * n) →
      durations.sum < 60 * 2 ^ 64 →
        forM durations z.unit.doStep s = z.unit.doStep durations.sum s) ∧
    (∀ (t w : Rat) (s : ZoneState Rat), 0 ≤ w →
      z.unit.restart t (t + w) s =
        ((do z.unit.restart t t; z.unit.doStep w : Call _ _ _) s).mapError Zone.warmupError) ∧
    (∀ (t w : Rat) (s : ZoneState Rat), w < 0 →
      (∃ e, z.unit.restart t (t + w) s = .failed s e) ∧
        ∃ e, (do z.unit.restart t t; z.unit.doStep w : Call _ _ _) s = .failed (z.start t) e) ∧
    ∀ (scenario : Scenario Rat) (specs : List (KpiSpec Rat)) (a b : Rat)
      (s s' : Session Rat (ZoneState Rat)) (latency latency' : Nat → Nat),
      (∃ k : Int, a = 60 * k) → (∃ k : Int, b = 60 * k) →
      (∃ m : Int, scenario.stop - scenario.warmupEnd = 60 * m) →
      scenario.stop - scenario.warmupEnd < 60 * 2 ^ 64 →
      Opened { scenario with step := a } specs z.unit s →
      Opened { scenario with step := b } specs z.unit s' →
      RowsAgree ((s.reset none).1.runToEnd latency).1.committed.results.toList
        ((s'.reset none).1.runToEnd latency').1.committed.results.toList := by
  refine ⟨?_, ?_, ?_, ?_⟩
  · intro durations s minutes bound
    rw [z.forM_doStep minutes bound]
  · intro t w s h
    rw [z.restart_then h]
    rfl
  · intro t w s h
    exact z.restart_before h s
  · intro scenario specs a b s s' latency latency' ha hb ⟨m, hm⟩ bound opened opened'
    have hstop : scenario.stop = scenario.warmupEnd + 60 * m := by linarith
    have hlt : m < 2 ^ 64 := by
      rw [hm] at bound
      have hcast : (m : Rat) < 2 ^ 64 := by linarith
      exact_mod_cast hcast
    exact rowsAgree_of_shown (baseline_shown ha hstop hlt opened latency)
      (baseline_shown hb hstop hlt opened' latency')

end Session

namespace Sample

/-- A zone on a day that gets colder. -/
def zone : Zone Rat where
  parameters := .default
  wave t := t / 43200

/-- Six minutes to score after one of warm-up. -/
def minutes (step : Rat) : Scenario Rat where
  name := "minutes"
  start := 0
  stop := 420
  warmup := 60
  step := step
  stepLimit := ⟨5⟩
  initLimit := ⟨7⟩

/-- The session of the zone over it. -/
def zoneSession (step : Rat) : Session Rat (ZoneState Rat) where
  scenario := minutes step
  model :=
    { unit := zone.unit
      registry :=
        { inputs := zone.unit.metadata.overwrite.map Registry.inputOf
          outputs := zone.unit.metadata.read.map Registry.outputOf
          groups := Registry.groupsOf zone.unit.metadata.read } }
  worker := .idle (zone.start 0)
  committed := .fresh (minutes step) { kpis := [], computed := 0.0, simulated := 0.0 }
  begun := 0
  metrics := none

theorem zone_opened (step : Rat) :
    Session.Opened (minutes step) [] zone.unit (zoneSession step) := by
  have hr : Registry.ofMetadata zone.unit.metadata = .ok (zoneSession step).model.registry := by
    obtain ⟨r, hr⟩ := eq_ok_of_toBool
      (show (Registry.ofMetadata zone.unit.metadata).toBool = true by decide +kernel)
    rw [hr, Registry.ofMetadata_ok hr]
    rfl
  have hk : KpiCalculator.ofSpecs [] (zoneSession step).model.registry =
      .ok (zoneSession step).committed.kpis := rfl
  exact ⟨_, _, Session.start_of_parts hr hk (minutes step) _, .inl rfl⟩

end Sample

namespace Session

/-- Baselines in steps of one minute and of four, the last of which is cut to two, have rows at two
times in common. -/
theorem trajectory_by_minutes_sample :
    ∃ s s' : Session Rat (ZoneState Rat),
      Opened (Sample.minutes 60) [] Sample.zone.unit s ∧
      Opened (Sample.minutes 240) [] Sample.zone.unit s' ∧
      ((s.reset none).1.runToEnd fun _ => 5).1.committed.results.toList.map (·.time) =
        [120, 180, 240, 300, 360, 420] ∧
      ((s'.reset none).1.runToEnd fun _ => 5).1.committed.results.toList.map (·.time) =
        [300, 420] ∧
      RowsAgree ((s.reset none).1.runToEnd fun _ => 5).1.committed.results.toList
        ((s'.reset none).1.runToEnd fun _ => 5).1.committed.results.toList ∧
      forM [60, 0, 120] Sample.zone.unit.doStep (Sample.zone.start 0) =
        Sample.zone.unit.doStep 180 (Sample.zone.start 0) ∧
      Sample.zone.unit.restart 0 60 (Sample.zone.start 9) =
        ((do Sample.zone.unit.restart 0 0; Sample.zone.unit.doStep 60 : Call _ _ _)
          (Sample.zone.start 9)).mapError Zone.warmupError ∧
      ∃ e, Sample.zone.unit.restart 0 (-60) (Sample.zone.start 9) =
        .failed (Sample.zone.start 9) e := by
  obtain ⟨together, warmedUp, backwards, baselines⟩ := trajectory_by_minutes Sample.zone
  have warmupEnd : (Sample.minutes 60).warmupEnd = 60 := by decide +kernel
  have length : (Sample.minutes 60).stop - (Sample.minutes 60).warmupEnd = 60 * (6 : Int) := by
    rw [warmupEnd]
    decide +kernel
  have agree := baselines (Sample.minutes 60) [] 60 240 (Sample.zoneSession 60)
    (Sample.zoneSession 240) (fun _ => 5) (fun _ => 5) ⟨1, by norm_num⟩ ⟨4, by norm_num⟩
    ⟨6, length⟩ (by rw [length]; norm_num) (Sample.zone_opened 60) (Sample.zone_opened 240)
  have split := together [60, 0, 120] (Sample.zone.start 0)
    (by
      intro d hd
      simp only [List.mem_cons, List.not_mem_nil, or_false] at hd
      rcases hd with rfl | rfl | rfl
      · exact ⟨1, by norm_num⟩
      · exact ⟨0, by norm_num⟩
      · exact ⟨2, by norm_num⟩)
    (by norm_num)
  have sum : ([60, 0, 120] : List Rat).sum = 180 := by norm_num
  have warm := warmedUp 0 60 (Sample.zone.start 9) (by norm_num)
  obtain ⟨back, -⟩ := backwards 0 (-60) (Sample.zone.start 9) (by norm_num)
  rw [sum] at split
  rw [zero_add] at warm back
  exact ⟨_, _, Sample.zone_opened 60, Sample.zone_opened 240, by decide +kernel, by decide +kernel,
    agree, split, warm, back⟩

end Session

end BuildingEmulation
