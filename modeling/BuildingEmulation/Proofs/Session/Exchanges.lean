import BuildingEmulation.Proofs.Registry
import BuildingEmulation.Proofs.Session.Commands
import BuildingEmulation.Proofs.Session.Timing
import BuildingEmulation.Proofs.SignalMap

/-!
# The exchanges of a session

An exchange gets into the unit only if the session has planned it. What a plan asks of the unit was
checked on the way there: by the lifecycle, by the registry and by the clock.

Results:
* `readySince_run`: a session is ready only if a window has begun and every call since has left it
  ready.
* `planned_of_job`: the exchange of an advance is the one that was planned for it.
* `commanded`: along every run over a valid scenario the unit is driven by whole jobs, and every
  exchange among them is sound.
-/
namespace BuildingEmulation

open Scalar (Extended)

namespace Session

section

variable {α σ : Type} [Scalar α] {scenario : Scenario α} {specs : List (KpiSpec α)}
  {unit : EmulationUnit α σ} {s₀ s : Session α σ} {e : SessionEvent α}
  {ts : List (Transition (Session α σ) (SessionEvent α))}

/-! ## Ready sessions -/

/-- A window has begun, and every call since has left the session ready. -/
def ReadySince (ts : List (Transition (Session α σ) (SessionEvent α))) : Prop :=
  ∃ before t after, ts = before ++ t :: after ∧ t.label.begins = true ∧
    ∀ u ∈ t :: after, u.target.committed.lifecycle = .ready

/-- Only the beginning of a window makes a session ready. -/
theorem Change.ready {w : Worker α σ} {c : Committed α} (h : Change s e w c)
    (hc : c.lifecycle = .ready) : e.begins = true ∨ s.committed.lifecycle = .ready := by
  cases h with
  | begun => exact .inl rfl
  | resetFailed => cases hc
  | failed ready | advanced ready => exact .inr ready
  | _ => exact .inr hc

theorem readySince_run (h₀ : (lts scenario specs unit).init s₀)
    (hr : (lts scenario specs unit).Run s₀ ts s) (ready : s.committed.lifecycle = .ready) :
    ReadySince ts := by
  induction hr with
  | nil =>
    obtain ⟨-, -, -, -, kpis, -, hc⟩ := Opened.parts h₀
    rw [hc] at ready; cases ready
  | @snoc ts s e s' run step ih =>
    rcases (Step.change step).ready ready with hb | before
    · refine ⟨ts, ⟨s, e, s'⟩, [], rfl, hb, fun u hu => ?_⟩
      rw [List.mem_singleton.1 hu]
      exact ready
    · obtain ⟨pre, t, post, rfl, hb, hpost⟩ := ih before
      refine ⟨pre, t, post ++ [⟨s, e, s'⟩], by rw [List.append_assoc, List.cons_append], hb, ?_⟩
      intro u hu
      rcases List.mem_append.1 (List.cons_append ▸ hu) with hu | hu
      · exact hpost u hu
      · rw [List.mem_singleton.1 hu]
        exact ready

/-! ## Planned exchanges -/

/-- The exchange of an advance is the one that was planned for it. -/
theorem planned_of_job {p : AdvancePlan α} {latency : Nat}
    (h : s.job? e = some (.advance p latency)) :
    (∃ latency answer, e = .advance latency p.inputs answer) ∧
      s.committed.plan s.model.registry p.inputs = .ok p := by
  unfold job? at h
  cases hw : s.worker with
  | busy => rw [hw] at h; cases h
  | idle =>
    rw [hw] at h
    cases e with
    | advance latency' inputs answer =>
      cases hp : s.committed.plan s.model.registry inputs with
      | error fault =>
        simp only [SessionEvent.call?, intent_advance_error hp, Intent.job?] at h
        cases h
      | ok p' =>
        simp only [SessionEvent.call?, intent_advance_ok hp, Intent.job?] at h
        cases h
        have hi : p.inputs = inputs := by rw [Committed.plan_duration hp]
        rw [hi]
        exact ⟨⟨_, answer, rfl⟩, hp⟩
    | reset step answer =>
      simp only [SessionEvent.call?] at h
      cases hc : Committed.checkStep step with
      | error fault => rw [intent_reset_error hc] at h; cases h
      | ok u => rw [intent_reset_ok hc] at h; cases h
    | setStep | release => cases h

end

/-! ## Sound exchanges -/

variable {σ : Type}

/-- What the exchange of a call asks of the unit was asked for by its client, allowed by the
lifecycle, accepted by the registry, and fits into the window of the scenario. -/
structure Sound (scenario : Scenario Extended) (r : Registry Extended)
    (before : List (Transition (Session Extended σ) (SessionEvent Extended)))
    (t : Transition (Session Extended σ) (SessionEvent Extended)) (p : AdvancePlan Extended) :
    Prop where
  requested : ∃ latency answer, t.label = .advance latency p.inputs answer
  ready : t.source.committed.lifecycle = .ready
  since : ReadySince before
  /-- Every name that was asked for is one of an input, and its value lies within the bounds. -/
  known : ∀ entry ∈ p.inputs.entries, ∃ signal ∈ r.inputs, signal.name = entry.1
  bounded : ∀ signal ∈ r.inputs, ∀ x, p.inputs.get? signal.name = some x →
    Scalar.isFinite x = true ∧ signal.min ≤ x ∧ x ≤ signal.max
  positive : .finite 0 < p.duration
  le_step : p.duration ≤ stepInForce scenario before
  le_stop : t.source.committed.clock.time + p.duration ≤ scenario.stop

/-- The unit is driven by whole jobs, one after the other, unless a call does not return; and the
exchanges among them are sound. -/
structure Commanded (scenario : Scenario Extended) (m : Metadata Extended)
    (s₀ : Session Extended (Recorded Extended σ))
    (ts : List (Transition (Session Extended (Recorded Extended σ)) (SessionEvent Extended)))
    (s : Session Extended (Recorded Extended σ)) : Prop where
  /-- The inputs stand in the order in which the unit has declared them. -/
  declared : s₀.model.registry.inputs = m.overwrite.map Registry.inputOf
  log : s.worker.state.HasSeen s₀.worker.state.driving (blocks scenario s₀.model.registry ts)
  sound : ∀ {before t after p latency}, ts = before ++ t :: after →
    t.source.job? t.label = some (.advance p latency) →
      Sound scenario s₀.model.registry before t p

/-- What the registry has taken lies within the bounds of its inputs. -/
theorem bounded_of_valid {m : Metadata Extended} {r : Registry Extended}
    {inputs : SignalMap Extended} (hr : Registry.ofMetadata m = .ok r)
    (valid : Committed.checkInputs r inputs.entries = .ok ()) {signal : InputSignal Extended}
    (hs : signal ∈ r.inputs) {x : Extended} (hx : inputs.get? signal.name = some x) :
    Scalar.isFinite x = true ∧ signal.min ≤ x ∧ x ≤ signal.max := by
  obtain ⟨finite, nodup⟩ := Registry.ofMetadata_inputs hr
  obtain ⟨hmin, hmax⟩ := finite signal hs
  have hm : (signal.name, x) ∈ inputs.entries := SignalMap.mem_of_get? hx
  obtain ⟨signal', hi, hf, hlo, hhi⟩ :=
    (r.validateInput_ok_iff _ _).1 (Committed.checkInputs_ok valid _ hm)
  rw [Registry.input?_of_mem nodup hs] at hi
  cases hi
  exact ⟨hf, (Extended.not_lt_iff hf hmin).1 hlo, (Extended.not_lt_iff hmax hf).1 hhi⟩

variable {scenario : Scenario Extended} {specs : List (KpiSpec Extended)}
  {unit : EmulationUnit Extended σ} {s₀ s : Session Extended (Recorded Extended σ)}
  {ts : List (Transition (Session Extended (Recorded Extended σ)) (SessionEvent Extended))}

/-- Whatever is called, the unit sees whole jobs and sound exchanges. -/
theorem commanded (hv : scenario.validate = .ok ())
    (h₀ : (lts scenario specs unit.recorded).init s₀)
    (hr : (lts scenario specs unit.recorded).Run s₀ ts s) :
    Commanded scenario unit.metadata s₀ ts s := by
  have fixed := fixed_inductive scenario specs unit.recorded
  have hregistry := (fixed.init s₀ h₀).registry_ok
  refine ⟨by rw [Registry.ofMetadata_ok hregistry]; rfl, (log_run h₀ hr).state, ?_⟩
  rintro before t after p latency rfl hj
  obtain ⟨exact, rfl, window⟩ := Scenario.validate_extended hv
  -- the clock that has planned the exchange is the one at the end of the calls before it
  obtain ⟨run, -, -⟩ := hr.split
  obtain ⟨clock, times, coherent, -, -, hstop⟩ := coherent_run window h₀ run
  have hsame : t.source.model.registry = s₀.model.registry :=
    Except.ok.inj ((fixed.run run (fixed.init s₀ h₀)).registry_ok.symm.trans hregistry)
  obtain ⟨requested, plan⟩ := planned_of_job hj
  rw [hsame] at plan
  obtain ⟨ready, valid⟩ := Committed.plan_ok plan
  have running := coherent.running ready
  have hd : p.duration = .finite (min clock.step (clock.stop - clock.time)) := by
    rw [Committed.plan_duration plan, ← running.plan_min, ← clock.plan_extended,
      ← coherent.clock_eq]
  exact
    { requested
      ready
      since := readySince_run h₀ run ready
      known := fun entry hm => by
        obtain ⟨signal, hi, -⟩ :=
          (Registry.validateInput_ok_iff _ _ _).1 (Committed.checkInputs_ok valid entry hm)
        exact ⟨signal, Registry.mem_of_input? hi⟩
      bounded := fun signal hs x hx => bounded_of_valid hregistry valid hs hx
      positive := by
        rw [hd, Extended.finite_lt, ← running.plan_min]
        exact running.plan_pos
      le_step := by
        rw [hd, ← clock_step h₀ run, coherent.clock_eq]
        exact (Extended.finite_le _ _).2 (min_le_left _ _)
      le_stop := by
        rw [hd, coherent.clock_eq]
        change Extended.finite clock.time + _ ≤ Extended.finite exact.stop
        rw [Extended.finite_add, Extended.finite_le, ← hstop]
        linarith [min_le_right clock.step (clock.stop - clock.time)] }

/-- The valve cannot be opened, and stays released instead. -/
theorem commanded_tank :
    ∃ (s₀ s : Session Extended (Recorded Extended (ScriptedState Extended)))
      (ts : List (Transition (Session Extended (Recorded Extended (ScriptedState Extended)))
        (SessionEvent Extended))),
      (lts Tank.scenario [Tank.fill] (scriptedUnit Tank.metadata).recorded).init s₀ ∧
      (lts Tank.scenario [Tank.fill] (scriptedUnit Tank.metadata).recorded).Run s₀ ts s ∧
      Commanded Tank.scenario Tank.metadata s₀ ts s ∧
      s.worker.state.driving = whole [.restart (.finite 0) (.finite 2)] ++
        [.called (.set "valve_u" (.real (.finite 1)))] ++
        whole [.set "valve_activate" (.flag false), .doStep (.finite 3)] := by
  let s₀ := Tank.session (scriptedUnit Tank.metadata).recorded
    { inner := Tank.state { failSet := some "valve_u" } }
  let open_ : SignalMap Extended := .ofList [("valve_u", .finite 1)]
  let M := lts Tank.scenario [Tank.fill] (scriptedUnit Tank.metadata).recorded
  have h₀ : M.init s₀ := Tank.opened rfl _
  have hr : M.Run s₀ _ _ :=
    ((LTS.Run.nil.snoc (step_reset s₀ none)).snoc (step_advance _ 5 open_)).snoc
      (step_advance _ 5 .empty)
  exact ⟨s₀, _, _, h₀, hr, commanded Tank.scenario_valid h₀ hr, by decide +kernel⟩

end Session

end BuildingEmulation
