import BuildingEmulation.Proofs.Model.Exchange
import BuildingEmulation.Proofs.Session.Coherent
import BuildingEmulation.Proofs.Session.Tank

/-!
# Every reachable state is consistent

What a client can rely on when it looks at a session, whatever has been called before and whatever
the unit did to the calls: the flags agree with each other, the times are in order and lie in the
window, the rows are those of the steps that were answered, and the measurements are the outputs
that were answered last.

Results:
* `observed_run`: a session has recorded what its calls have answered.
* `consistent`: along every run from an opened session over a valid scenario.
-/
namespace BuildingEmulation

open Scalar (Extended)

namespace Session

section

variable {α σ : Type} [Scalar α]

/-- A session in a window has recorded what its calls have answered: a row for every step since the
window began, and the outputs of the last call that gave any. -/
structure Observed (ts : List (Transition (Session α σ) (SessionEvent α))) (s : Session α σ) :
    Prop where
  count : s.committed.results.toList.length = (latencies ts).length
  answered : lastOf SessionEvent.outputs? ts = some s.committed.measurements
  measures : Model.Measures s.committed.measurements s.model.registry.outputs
  logged : ∀ row, s.committed.results.toList.getLast? = some row →
    ∀ name x, s.committed.measurements.get? name = some x → row.values.get? name = some x

variable {s s' : Session α σ} {e : SessionEvent α}
  {ts : List (Transition (Session α σ) (SessionEvent α))}

/-- A call that neither begins a window nor gives outputs records nothing. -/
theorem Observed.still (h : Observed ts s) (hb : e.begins = false) (hl : e.latency? = none)
    (ho : e.outputs? = none) (hresults : s'.committed.results = s.committed.results)
    (hmeasurements : s'.committed.measurements = s.committed.measurements)
    (hm : s'.model = s.model) : Observed (ts ++ [⟨s, e, s'⟩]) s' where
  count := by
    rw [latencies_snoc, hresults, h.count]
    simp [hb, hl]
  answered := by
    rw [lastOf_snoc, hmeasurements, ← h.answered]
    simp [ho]
  measures := by rw [hmeasurements, hm]; exact h.measures
  logged := by rw [hresults, hmeasurements]; exact h.logged

/-- A window begins with the outputs of the warm-up and no rows. -/
theorem Observed.opened {outputs : SignalMap α} (hb : e.begins = true)
    (ho : e.outputs? = some outputs) (hrows : s'.committed.results.toList = [])
    (hmeasurements : s'.committed.measurements = outputs)
    (hmeasures : Model.Measures outputs s'.model.registry.outputs) :
    Observed (ts ++ [⟨s, e, s'⟩]) s' where
  count := by
    rw [latencies_snoc, hrows, if_pos hb]; rfl
  answered := by
    rw [lastOf_snoc, hmeasurements]
    simp [ho]
  measures := by rw [hmeasurements]; exact hmeasures
  logged row hrow := by rw [hrows] at hrow; cases hrow

/-- A step is recorded with its outputs, in the log and as measurements. -/
theorem Observed.record (h : Observed ts s) {latency : Nat} {inputs outputs : SignalMap α}
    (hb : e.begins = false) (hl : e.latency? = some latency) (ho : e.outputs? = some outputs)
    (hc : s'.committed = s.committed.record inputs outputs latency)
    (hmeasures : Model.Measures outputs s'.model.registry.outputs) :
    Observed (ts ++ [⟨s, e, s'⟩]) s' := by
  have hrows : s'.committed.results.toList =
      s.committed.results.toList ++ [s.committed.nextRow inputs outputs] := by
    rw [hc]; exact Array.toList_push
  refine ⟨?_, ?_, by rw [hc]; exact hmeasures, ?_⟩
  · rw [latencies_snoc, hrows, List.length_append, h.count]
    simp [hb, hl]
  · rw [lastOf_snoc, hc]
    simp [ho, Committed.record]
  · intro row hrow name x hx
    rw [hrows, List.getLast?_concat] at hrow
    cases hrow
    rw [hc] at hx
    change (inputs.overwrite outputs).get? name = some x
    rw [SignalMap.get?_overwrite, show outputs.get? name = some x from hx]
    rfl

theorem observed_step (hs : s.Step e s')
    (h : s.committed.lifecycle ≠ .uninitialized → Observed ts s)
    (hi : s'.committed.lifecycle ≠ .uninitialized) : Observed (ts ++ [⟨s, e, s'⟩]) s' := by
  obtain ⟨-, hm⟩ := hs.frame
  have hc := hs.change
  generalize s'.worker = w at hc
  generalize hcm : s'.committed = c at hc
  cases hc with
  | refused | uncommitted | resetRefused | stepRefused | released =>
    exact (h (hcm ▸ hi)).still rfl rfl rfl (by rw [hcm]) (by rw [hcm]) hm
  | stepSet valid =>
    have hi : s.committed.lifecycle ≠ .uninitialized := by rw [hcm] at hi; exact hi
    exact (h hi).still rfl rfl rfl (by rw [hcm]; rfl) (by rw [hcm]; rfl) hm
  | failed ready =>
    have hi : s.committed.lifecycle ≠ .uninitialized := by rw [ready]; exact Lifecycle.noConfusion
    obtain ⟨-, -, hresults, hmeasurements, -⟩ := s.committed.fail_fields _
    exact (h hi).still rfl rfl rfl (by rw [hcm, hresults]) (by rw [hcm, hmeasurements]) hm
  | resetFailed => rw [hcm] at hi; exact absurd rfl hi
  | begun valid run =>
    obtain ⟨st, st', -, hx, -⟩ := Worker.run_ok run
    have hmeasures := s.model.warmUp_measures s.scenario.start s.scenario.warmupEnd st trivial
    rw [hx] at hmeasures
    exact .opened rfl rfl (by rw [hcm]; rfl) (by rw [hcm]; rfl) (by rw [hm]; exact hmeasures)
  | @advanced latency inputs _ outputs ready valid run log =>
    have hi : s.committed.lifecycle ≠ .uninitialized := by rw [ready]; exact Lifecycle.noConfusion
    obtain ⟨st, st', -, hx, -⟩ := Worker.run_ok run
    have hmeasures := s.model.exchange_measures inputs s.committed.clock.plan st trivial
    rw [hx] at hmeasures
    exact (h hi).record rfl rfl rfl hcm (by rw [hm]; exact hmeasures)

variable {scenario : Scenario α} {specs : List (KpiSpec α)} {unit : EmulationUnit α σ}
  {s₀ : Session α σ}

/-- Along every run, whenever a window has begun. -/
theorem observed_run (h₀ : (lts scenario specs unit).init s₀)
    (hr : (lts scenario specs unit).Run s₀ ts s) :
    s.committed.lifecycle ≠ .uninitialized → Observed ts s := by
  induction hr with
  | nil =>
    intro hi
    obtain ⟨-, -, -, -, kpis, -, hc⟩ := Opened.parts h₀
    rw [hc] at hi
    exact absurd rfl hi
  | snoc _ step ih => exact observed_step step ih

end

variable {σ : Type}

/-- What holds of a session in every state that a run leads to. -/
structure Consistent (scenario : Scenario Extended)
    (ts : List (Transition (Session Extended σ) (SessionEvent Extended)))
    (s : Session Extended σ) : Prop where
  /-- A window has begun exactly if there is a session to name, and if the lifecycle says so. -/
  id_iff : s.committed.clock.initialized = true ↔ s.committed.id.isSome
  lifecycle_iff : s.committed.clock.initialized = true ↔ s.committed.lifecycle ≠ .uninitialized
  /-- Before that nothing is recorded. -/
  blank : s.committed.clock.initialized = false →
    s.committed.results.toList = [] ∧ s.measurements = .empty ∧
      (∀ k ∈ s.kpiRecords, k.value = .finite 0) ∧ s.committed.clock.time = scenario.start
  /-- The clock stays in the window. -/
  window : s.committed.clock.initialized = true →
    scenario.start ≤ scenario.warmupEnd ∧ scenario.warmupEnd ≤ s.committed.clock.time ∧
      s.committed.clock.time ≤ scenario.stop
  /-- The rows lead through the window up to the time of the clock. -/
  increasing : (s.committed.results.toList.map (·.time)).Pairwise (· < ·)
  within : ∀ row ∈ s.committed.results.toList,
    scenario.warmupEnd < row.time ∧ row.time ≤ scenario.stop
  last : s.committed.clock.initialized = true →
    s.committed.clock.time =
      (s.committed.results.toList.getLast?.map (·.time)).getD scenario.warmupEnd
  /-- There is one for every step since the window began. -/
  count : s.committed.clock.initialized = true →
    s.committed.results.toList.length = (latencies ts).length
  /-- The scenario has ended exactly if the clock has reached its end. -/
  ended : s.committed.lifecycle = .scenarioEnded ↔
    s.committed.clock.initialized = true ∧ s.committed.clock.time = scenario.stop
  planned : s.committed.lifecycle = .ready → .finite 0 < s.committed.clock.plan
  /-- The measurements are the outputs that were answered last: all that the unit has, each of them
  finite, and those of the last row if there is one. -/
  answered : s.committed.clock.initialized = true →
    lastOf SessionEvent.outputs? ts = some s.measurements
  measures : s.committed.clock.initialized = true →
    Model.Measures s.measurements s.model.registry.outputs
  logged : s.committed.clock.initialized = true →
    ∀ row, s.committed.results.toList.getLast? = some row →
      ∀ name x, s.measurements.get? name = some x → row.values.get? name = some x

variable {scenario : Scenario Extended} {specs : List (KpiSpec Extended)}
  {unit : EmulationUnit Extended σ} {s₀ s : Session Extended σ}
  {ts : List (Transition (Session Extended σ) (SessionEvent Extended))}

/-- Whatever is called, and whatever the unit does to the calls, the session stays consistent. -/
theorem consistent (hv : scenario.validate = .ok ()) (h₀ : (lts scenario specs unit).init s₀)
    (hr : (lts scenario specs unit).Run s₀ ts s) : Consistent scenario ts s := by
  obtain ⟨exact, rfl, window⟩ := Scenario.validate_extended hv
  obtain ⟨clock, times, coherent, hstart, hwarmup, hstop⟩ := coherent_run window h₀ hr
  have observed := observed_run h₀ hr
  have hi := coherent.initialized_iff
  have begun (h : s.committed.clock.initialized = true) := coherent.begun (hi.1 h)
  have unbegun (h : s.committed.clock.initialized = false) : s.committed.Blank := by
    refine coherent.blank ?_
    by_contra hl
    rw [hi.2 hl] at h; cases h
  have htime : s.committed.clock.time = .finite clock.time := by rw [coherent.clock_eq]; rfl
  have hwarmup' : exact.extended.warmupEnd = .finite clock.warmupEnd := by
    rw [exact.warmupEnd_extended, hwarmup]
  have hstop' : exact.extended.stop = .finite clock.stop := by rw [hstop]; rfl
  obtain ⟨increasing, upTo⟩ := coherent.ordered
  exact
    { id_iff := by
        refine ⟨fun h => (begun h).id_some, fun hid => ?_⟩
        by_contra h
        rw [(unbegun (Bool.eq_false_of_not_eq_true h)).id_none] at hid; cases hid
      lifecycle_iff := hi
      blank := by
        intro h
        have hb := unbegun h
        have hzero : ∀ k ∈ s.kpiRecords, k.value = .finite 0 := by
          rw [← Extended.zero_finite]
          exact hb.records_zero
        refine ⟨hb.rows_nil, hb.measurements_eq, hzero, ?_⟩
        rw [hb.time_eq, coherent.clock_eq]
        exact congrArg Extended.finite hstart
      window := by
        intro h
        have hb := begun h
        rw [hwarmup', hstop', htime]
        refine ⟨(Extended.finite_le _ _).2 (hstart ▸ coherent.start_le), ?_, ?_⟩
        · exact (Extended.finite_le _ _).2 (hb.upTo _ List.mem_cons_self)
        · exact (Extended.finite_le _ _).2 hb.le_stop
      increasing := by
        rw [coherent.rows_eq, List.pairwise_map]
        simpa only [Extended.finite_lt] using increasing.of_cons
      within := by
        intro row hm
        have ht : row.time ∈ times.map Extended.finite := by
          rw [← coherent.rows_eq]
          exact List.mem_map_of_mem hm
        obtain ⟨t, ht, he⟩ := List.mem_map.1 ht
        rw [← he, hwarmup', hstop']
        exact ⟨(Extended.finite_lt _ _).2 (List.rel_of_pairwise_cons increasing ht),
          (Extended.finite_le _ _).2 (upTo t ht)⟩
      last := by
        intro h
        rw [htime, hwarmup', ← List.getLast?_map, coherent.rows_eq, List.getLast?_map,
          (begun h).last]
        cases times.getLast? <;> rfl
      count := fun h => (observed (hi.1 h)).count
      ended := by
        rw [hstop', htime]
        constructor
        · intro hl
          have h : s.committed.clock.initialized = true :=
            hi.2 (by rw [hl]; exact Lifecycle.noConfusion)
          exact ⟨h, congrArg Extended.finite ((begun h).ended.1 hl)⟩
        · rintro ⟨h, he⟩
          exact (begun h).ended.2 (Extended.finite.inj he)
      planned := by
        intro ready
        rw [coherent.clock_eq, clock.plan_extended, Extended.finite_lt]
        exact (coherent.running ready).plan_pos
      answered := fun h => (observed (hi.1 h)).answered
      measures := fun h => (observed (hi.1 h)).measures
      logged := fun h => (observed (hi.1 h)).logged }

/-- A tank is advanced by three seconds, and then by all that is left although six were asked
for. -/
theorem consistent_tank :
    ∃ (s₀ s : Session Extended (ScriptedState Extended))
      (ts : List (Transition (Session Extended (ScriptedState Extended)) (SessionEvent Extended))),
      (lts Tank.scenario [Tank.fill] (scriptedUnit Tank.metadata)).init s₀ ∧
      (lts Tank.scenario [Tank.fill] (scriptedUnit Tank.metadata)).Run s₀ ts s ∧
      Consistent Tank.scenario ts s ∧ s.committed.lifecycle = .scenarioEnded ∧
      s.committed.results.toList.map (·.time) = [.finite 5, .finite 10] := by
  let s₀ := Tank.session (scriptedUnit Tank.metadata)
    (Tank.state { rates := .ofList [("level_y", .finite 1)] })
  let M := lts Tank.scenario [Tank.fill] (scriptedUnit Tank.metadata)
  have h₀ : M.init s₀ := Tank.opened rfl _
  have hr : M.Run s₀ _ _ :=
    (((LTS.Run.nil.snoc (step_reset s₀ none)).snoc (step_advance _ 5 .empty)).snoc
      (step_setStep _ (.finite 6))).snoc (step_advance _ 5 .empty)
  exact ⟨s₀, _, _, h₀, hr, consistent Tank.scenario_valid h₀ hr, by decide +kernel,
    by decide +kernel⟩

end Session

end BuildingEmulation
