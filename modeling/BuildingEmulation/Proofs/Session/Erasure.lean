import BuildingEmulation.Proofs.Model.Mirror
import BuildingEmulation.Proofs.Session.Alike
import BuildingEmulation.Session.Configured

/-!
# A reset erases all history

Whatever two sessions over a unit have been through, a reset with the same step leaves them in the
same state, if the unit forgets what was before it: the clock, the log, the indicators and the
measurements start over, and the step comes with the reset. All that is left of the past is how many
sessions have begun. From there on the same calls keep them in the same state. What makes them
differ again is only how long their steps take to compute, which is told by the time ratios.

A call that is given up at its time limit is outside of this: it says that the machine was slow, not
what the session is.

Results:
* `Worker.run_mirrors`: a model call that comes back from two sessions brings the same.
* `reset_alike`: a reset from two sessions over one unit.
* `answer_alike`, `answers_alike`: the same calls keep sessions that are alike so.
* `reset_erasesHistory`: for the bundled zone, and for every unit that forgets.
-/
namespace BuildingEmulation

variable {α σ : Type} {R : σ → σ → Prop}

/-! ## Workers -/

namespace Worker

/-- Both have their units to themselves, in states that are related. -/
def Alike (R : σ → σ → Prop) (w w' : Worker α σ) : Prop :=
  ∃ x x', w = .idle x ∧ w' = .idle x' ∧ R x x'

variable {P F : σ → σ → Prop} {w w' : Worker α σ} {β : Type}

theorem Alike.mono (h : Alike P w w') (hR : ∀ x x', P x x' → R x x') : Alike R w w' := by
  obtain ⟨x, x', hw, hw', hx⟩ := h
  exact ⟨x, x', hw, hw', hR x x' hx⟩

/-- The call was not given up at its time limit. -/
def CameBack (told : Except (CallFailure α) β) : Prop :=
  ∀ failure, told = .error failure → failure.error.isTimeout = false

/-- A call that comes back had the worker to itself. -/
theorem idle_of_cameBack {limit : TimeLimit} {call : Call σ (ModelError α) β}
    (h : CameBack (w.run limit call).2) : ∃ x, w = .idle x := by
  cases w with
  | idle x => exact ⟨x, rfl⟩
  | busy s resume => cases h _ rfl

/-- A call that comes back from two workers brings the same, and leaves states that are related by
what became of it. -/
theorem run_mirrors {limit : TimeLimit} {call : Call σ (ModelError α) β}
    (hc : call.Mirrors P R F) (hw : Alike P w w') (back : CameBack (w.run limit call).2)
    (back' : CameBack (w'.run limit call).2) :
    (w'.run limit call).2 = (w.run limit call).2 ∧
      ((∃ b, (w.run limit call).2 = .ok b) ∧ Alike R (w.run limit call).1 (w'.run limit call).1 ∨
        (∃ failure, (w.run limit call).2 = .error failure) ∧
          Alike F (w.run limit call).1 (w'.run limit call).1) := by
  obtain ⟨x, x', rfl, rfl, hx⟩ := hw
  have h := hc x x' hx
  simp only [run] at back back' ⊢
  generalize call x = p at h back ⊢
  generalize call x' = p' at h back' ⊢
  cases p with
  | blocked s resume => cases back _ rfl
  | returned s b =>
    cases p' with
    | blocked s' resume => cases back' _ rfl
    | returned s' b' =>
      obtain ⟨hs, rfl⟩ := h
      exact ⟨rfl, .inl ⟨⟨_, rfl⟩, s, s', rfl, rfl, hs⟩⟩
    | failed | aborted => cases h
  | failed s e =>
    cases p' with
    | blocked s' resume => cases back' _ rfl
    | failed s' e' =>
      obtain ⟨hs, rfl⟩ := h
      exact ⟨rfl, .inr ⟨⟨_, rfl⟩, s, s', rfl, rfl, hs⟩⟩
    | returned | aborted => cases h
  | aborted s =>
    cases p' with
    | blocked s' resume => cases back' _ rfl
    | aborted s' => exact ⟨rfl, .inr ⟨⟨_, rfl⟩, s, s', rfl, rfl, h⟩⟩
    | returned | failed => cases h

end Worker

namespace Session

variable [Scalar α] {ratio : String → Prop}

/-! ## What calls come to -/

section

variable {s : Session α σ} {inputs : SignalMap α} {step : Option α}

/-- What the model is asked by an advance, and what it tells. -/
def asksAdvance (s : Session α σ) (inputs : SignalMap α) :
    Worker α σ × Except (CallFailure α) (SignalMap α) :=
  s.worker.run s.scenario.stepLimit (s.model.exchange inputs s.committed.clock.plan)

/-- What the model is asked by a reset, and what it tells. -/
def asksReset (s : Session α σ) : Worker α σ × Except (CallFailure α) (SignalMap α) :=
  s.worker.run s.scenario.initLimit (s.model.warmUp s.scenario.start s.scenario.warmupEnd)

theorem advance_refused {e : SessionError α}
    (h : s.committed.plan s.model.registry inputs = .error e) (latency : Nat) :
    (s.advance latency inputs).2 = .error e ∧
      (s.advance latency inputs).1.worker = s.worker ∧
      (s.advance latency inputs).1.committed = s.committed := by
  rw [advance, advance_rejected h]
  exact ⟨rfl, rfl, rfl⟩

theorem advance_sent
    (h : s.committed.plan s.model.registry inputs = .ok (s.committed.planned inputs))
    (latency : Nat) :
    (s.advance latency inputs).2 = (s.committed.settleAdvance (s.committed.planned inputs) latency
        (s.asksAdvance inputs).2).2 ∧
      (s.advance latency inputs).1.worker = (s.asksAdvance inputs).1 ∧
      (s.advance latency inputs).1.committed = (s.committed.settleAdvance
        (s.committed.planned inputs) latency (s.asksAdvance inputs).2).1 := by
  have hx : s.exchange (s.committed.planned inputs) =
      ({ s with worker := (s.asksAdvance inputs).1 }, (s.asksAdvance inputs).2) := rfl
  unfold advance advanceQuietly
  simp only [h, hx, count_worker, count_committed, settle]
  cases (s.asksAdvance inputs).2 <;> exact ⟨rfl, rfl, rfl⟩

theorem reset_refused {e : SessionError α} (h : Committed.checkStep step = .error e) :
    (s.reset step).2 = .error e ∧ (s.reset step).1.worker = s.worker ∧
      (s.reset step).1.committed = s.committed := by
  rw [reset, reset_rejected h]
  exact ⟨rfl, rfl, rfl⟩

theorem reset_sent (h : Committed.checkStep step = .ok ()) :
    (s.reset step).2 = (s.committed.settleReset step ⟨s.begun + 1⟩ s.asksReset.2).2 ∧
      (s.reset step).1.worker = s.asksReset.1 ∧
      (s.reset step).1.committed =
        (s.committed.settleReset step ⟨s.begun + 1⟩ s.asksReset.2).1 := by
  unfold reset resetQuietly
  simp only [h, publish, measure_worker, measure_committed]
  exact ⟨rfl, rfl, rfl⟩

/-- An exchange that was not given up. -/
theorem cameBack_advance
    (h : s.committed.plan s.model.registry inputs = .ok (s.committed.planned inputs))
    {latency : Nat} (back : timedOut (s.advance latency inputs).2 = false) :
    Worker.CameBack (s.asksAdvance inputs).2 := by
  intro failure hf
  rw [(advance_sent h latency).1, hf] at back
  exact back

/-- A warm-up that was not given up. -/
theorem cameBack_reset (h : Committed.checkStep step = .ok ())
    (back : timedOut (s.reset step).2 = false) : Worker.CameBack s.asksReset.2 := by
  intro failure hf
  rw [(reset_sent h).1, hf] at back
  exact back

end

/-! ## Sessions that are alike -/

/-- Sessions over the same model in the same state. Before a window has begun their units may be
anywhere. -/
structure Alike (R : σ → σ → Prop) (ratio : String → Prop) (s s' : Session α σ) : Prop where
  scenario : s'.scenario = s.scenario
  model : s'.model = s.model
  committed : s.committed.Alike ratio s'.committed
  worker : s.worker.Alike (fun x x' => s.committed.lifecycle ≠ .uninitialized → R x x') s'.worker

variable {s s' : Session α σ}

theorem Alike.call {t t' : Session α σ} {e e' : SessionEvent α} (h : s.Alike R ratio s')
    (step : s.Step e t) (step' : s'.Step e' t') (committed : t.committed.Alike ratio t'.committed)
    (worker : t.worker.Alike (fun x x' => t.committed.lifecycle ≠ .uninitialized → R x x')
      t'.worker) : t.Alike R ratio t' where
  scenario := by rw [step'.frame.1, step.frame.1, h.scenario]
  model := by rw [step'.frame.2, step.frame.2, h.model]
  committed := committed
  worker := worker

theorem Alike.asksAdvance (h : s.Alike R ratio s') (hu : s.model.unit.Mirrors R)
    (ready : s.committed.lifecycle = .ready) {inputs : SignalMap α}
    (back : Worker.CameBack (s.asksAdvance inputs).2)
    (back' : Worker.CameBack (s'.asksAdvance inputs).2) :
    (s'.asksAdvance inputs).2 = (s.asksAdvance inputs).2 ∧
      (s.asksAdvance inputs).1.Alike R (s'.asksAdvance inputs).1 := by
  unfold Session.asksAdvance at back back' ⊢
  rw [h.scenario, h.model, h.committed.clock] at back' ⊢
  have hw : s.worker.Alike R s'.worker := h.worker.mono fun x x' hx => hx (by
    rw [ready]
    exact Lifecycle.noConfusion)
  obtain ⟨told, ⟨-, worker⟩ | ⟨-, worker⟩⟩ :=
    Worker.run_mirrors (Model.exchange_mirrors hu inputs _) hw back back' <;>
    exact ⟨told, worker⟩

/-- The same advance of sessions that are alike. -/
theorem Alike.advance (h : s.Alike R ratio s') (hu : s.model.unit.Mirrors R)
    (latency latency' : Nat) (inputs : SignalMap α)
    (back : timedOut (s.advance latency inputs).2 = false)
    (back' : timedOut (s'.advance latency' inputs).2 = false) :
    AnswersAlike (AdvanceReport.Alike ratio) (s.advance latency inputs).2
        (s'.advance latency' inputs).2 ∧
      (s.advance latency inputs).1.Alike R ratio (s'.advance latency' inputs).1 := by
  have step : s.Step (.advance latency inputs (s.advance latency inputs).2) _ := rfl
  have step' : s'.Step (.advance latency' inputs (s'.advance latency' inputs).2) _ := rfl
  have plan := h.committed.plan s.model.registry inputs
  rw [← h.model] at plan
  rcases s.committed.plan_cases s.model.registry inputs with ⟨ready, -, hp⟩ | ⟨e, hp, -⟩
  · have hp' : s'.committed.plan s'.model.registry inputs = .ok (s'.committed.planned inputs) := by
      rw [plan, h.model, hp, h.committed.planned]
    obtain ⟨told, worker⟩ :=
      h.asksAdvance hu ready (cameBack_advance hp back) (cameBack_advance hp' back')
    obtain ⟨ha, hw, hc⟩ := advance_sent hp latency
    obtain ⟨ha', hw', hc'⟩ := advance_sent hp' latency'
    rw [told, h.committed.planned] at ha' hc'
    obtain ⟨answers, committed⟩ :=
      h.committed.settleAdvance inputs latency latency' (s.asksAdvance inputs).2
    rw [← ha, ← ha'] at answers
    rw [← hc, ← hc'] at committed
    rw [← hw, ← hw'] at worker
    exact ⟨answers, h.call step step' committed (worker.mono fun _ _ hx _ => hx)⟩
  · have hp' : s'.committed.plan s'.model.registry inputs = .error e := by rw [plan, h.model, hp]
    obtain ⟨ha, hw, hc⟩ := advance_refused hp latency
    obtain ⟨ha', hw', hc'⟩ := advance_refused hp' latency'
    refine ⟨by rw [ha, ha']; rfl, h.call step step' ?_ ?_⟩
    · rw [hc, hc']; exact h.committed
    · rw [hc, hw, hw']; exact h.worker

/-! ## Resets -/

/-- What resets of two sessions have come to: both were refused, or both warm-ups failed, or both
have begun. -/
inductive Restarted (R : σ → σ → Prop) (ratio : String → Prop) (s s' t t' : Session α σ) :
    Except (SessionError α) (ResetReport α) → Except (SessionError α) (ResetReport α) → Prop
  | refused {e} (worker : t.worker = s.worker) (worker' : t'.worker = s'.worker)
      (committed : t.committed = s.committed) (committed' : t'.committed = s'.committed) :
      Restarted R ratio s s' t t' (.error e) (.error e)
  | failed {e} (idle : t.worker.Alike (fun _ _ => True) t'.worker)
      (committed : t.committed = s.committed.abandon)
      (committed' : t'.committed = s'.committed.abandon) :
      Restarted R ratio s s' t t' (.error e) (.error e)
  | begun {report report'} (reports : report.Alike report')
      (committed : t.committed.Alike ratio t'.committed) (ready : t.committed.lifecycle = .ready)
      (worker : t.worker.Alike R t'.worker) :
      Restarted R ratio s s' t t' (.ok report) (.ok report')

theorem Restarted.answers {t t' : Session α σ} {a a' : Except (SessionError α) (ResetReport α)}
    (h : Restarted R ratio s s' t t' a a') : AnswersAlike ResetReport.Alike a a' := by
  cases h with
  | refused | failed => rfl
  | begun reports => exact reports

/-- The warm-ups of two sessions over one unit, whatever the unit was doing. -/
theorem asksReset_mirrors (hu : s.model.unit.Mirrors R) (scenario : s'.scenario = s.scenario)
    (model : s'.model = s.model) (back : Worker.CameBack s.asksReset.2)
    (back' : Worker.CameBack s'.asksReset.2) :
    s'.asksReset.2 = s.asksReset.2 ∧
      ((∃ outputs, s.asksReset.2 = .ok outputs) ∧ s.asksReset.1.Alike R s'.asksReset.1 ∨
        (∃ failure, s.asksReset.2 = .error failure) ∧
          s.asksReset.1.Alike (fun _ _ => True) s'.asksReset.1) := by
  obtain ⟨x, hx⟩ := Worker.idle_of_cameBack back
  obtain ⟨x', hx'⟩ := Worker.idle_of_cameBack back'
  unfold asksReset at back back' ⊢
  rw [scenario, model] at back' ⊢
  exact Worker.run_mirrors (Model.warmUp_mirrors hu _ _) ⟨x, x', hx, hx', trivial⟩ back back'

/-- Resets of two sessions over one unit, whatever the unit was doing. -/
theorem reset_alike {step : Option α} (hu : s.model.unit.Mirrors R)
    (scenario : s'.scenario = s.scenario) (model : s'.model = s.model)
    (warmupEnd : s'.committed.clock.warmupEnd = s.committed.clock.warmupEnd)
    (opened : ∀ outputs id id', Committed.Alike ratio (s.committed.opened step outputs id)
      (s'.committed.opened step outputs id'))
    (back : timedOut (s.reset step).2 = false) (back' : timedOut (s'.reset step).2 = false) :
    Restarted R ratio s s' (s.reset step).1 (s'.reset step).1 (s.reset step).2
      (s'.reset step).2 := by
  cases valid : Committed.checkStep step with
  | error e =>
    obtain ⟨ha, hw, hc⟩ := reset_refused (s := s) valid
    obtain ⟨ha', hw', hc'⟩ := reset_refused (s := s') valid
    rw [ha, ha']
    exact .refused hw hw' hc hc'
  | ok u =>
    obtain ⟨ha, hw, hc⟩ := reset_sent (s := s) valid
    obtain ⟨ha', hw', hc'⟩ := reset_sent (s := s') valid
    obtain ⟨told, ⟨⟨outputs, ho⟩, worker⟩ | ⟨⟨failure, hf⟩, worker⟩⟩ :=
      asksReset_mirrors hu scenario model (cameBack_reset valid back) (cameBack_reset valid back')
    · rw [told] at ha' hc'
      rw [ho, Committed.settleReset_ok valid] at ha ha' hc hc'
      rw [ha, ha']
      refine .begun ⟨warmupEnd, rfl⟩ ?_ (by rw [hc]; rfl) (by rw [hw, hw']; exact worker)
      rw [hc, hc']
      exact opened _ _ _
    · rw [told] at ha' hc'
      rw [hf] at ha ha' hc hc'
      rw [ha, ha']
      exact .failed (by rw [hw, hw']; exact worker) hc hc'

/-- The same reset of sessions that are alike. -/
theorem Alike.reset (h : s.Alike R ratio s') (hu : s.model.unit.Mirrors R) (step : Option α)
    (back : timedOut (s.reset step).2 = false) (back' : timedOut (s'.reset step).2 = false) :
    AnswersAlike ResetReport.Alike (s.reset step).2 (s'.reset step).2 ∧
      (s.reset step).1.Alike R ratio (s'.reset step).1 := by
  have ran : s.Step (.reset step (s.reset step).2) (s.reset step).1 := rfl
  have ran' : s'.Step (.reset step (s'.reset step).2) (s'.reset step).1 := rfl
  have restarted := reset_alike hu h.scenario h.model (congrArg Clock.warmupEnd h.committed.clock)
    (h.committed.opened step) back back'
  refine ⟨restarted.answers, ?_⟩
  generalize (s.reset step).2 = a at ran restarted
  generalize (s'.reset step).2 = a' at ran' restarted
  cases restarted with
  | refused worker worker' committed committed' =>
    refine h.call ran ran' ?_ ?_
    · rw [committed, committed']; exact h.committed
    · rw [committed, worker, worker']; exact h.worker
  | failed idle committed committed' =>
    refine h.call ran ran' ?_ ?_
    · rw [committed, committed']; exact h.committed.abandon
    · refine idle.mono fun _ _ _ hl => absurd ?_ hl
      rw [committed]; rfl
  | begun _ committed _ worker => exact h.call ran ran' committed (worker.mono fun _ _ hx _ => hx)

/-! ## All calls -/

theorem Alike.setStep (h : s.Alike R ratio s') (step : α) :
    (s'.setStep step).2 = (s.setStep step).2 ∧
      (s.setStep step).1.Alike R ratio (s'.setStep step).1 := by
  unfold Session.setStep Committed.setStep Clock.setStep
  cases Clock.checkStep step with
  | error fault => exact ⟨rfl, h⟩
  | ok u => exact ⟨rfl, h.scenario, h.model, h.committed.withStep step, h.worker⟩

variable [Decimal.Numeral α]

/-- Nothing that can be read tells sessions apart that are alike. -/
theorem Alike.read (h : s.Alike R ratio s') (what : Reading α) :
    ClientAnswer.Alike ratio (s.read what) (s'.read what) := by
  cases what with
  | status =>
    exact ⟨congrArg Scenario.name h.scenario, h.committed.lifecycle, h.committed.begun,
      h.committed.clock, congrArg ResultsLog.size h.committed.results⟩
  | kpis => exact h.committed.kpiValues
  | kpiRecords => exact h.committed.kpis.records
  | getStep => exact congrArg (ClientAnswer.getStep ·.step) h.committed.clock
  | inputs => exact congrArg (ClientAnswer.inputs ·.registry.inputs) h.model
  | outputs => exact congrArg (ClientAnswer.outputs ·.registry.outputs) h.model
  | measurements => exact congrArg ClientAnswer.measurements h.committed.measurements
  | results range => exact congrArg (ClientAnswer.results <| ·.range range) h.committed.results
  | series signal range =>
    refine congrArg ClientAnswer.series ?_
    unfold series
    rw [h.model, h.committed.results]
  | csv => exact congrArg (ClientAnswer.text ·.csv) h.committed.results
  | text =>
    refine congrArg ClientAnswer.text ?_
    unfold text
    rw [h.scenario, h.committed.lifecycle]

/-- The same call of sessions that are alike is answered alike, and leaves them so. -/
theorem answer_alike (h : s.Alike R ratio s') (hu : s.model.unit.Mirrors R) (latency latency' : Nat)
    (call : ClientCall α) (back : (s.answer latency call).2.timedOut = false)
    (back' : (s'.answer latency' call).2.timedOut = false) :
    ClientAnswer.Alike ratio (s.answer latency call).2 (s'.answer latency' call).2 ∧
      (s.answer latency call).1.Alike R ratio (s'.answer latency' call).1 := by
  cases call with
  | advance inputs => exact h.advance hu latency latency' inputs back back'
  | reset step => exact h.reset hu step back back'
  | setStep step =>
    obtain ⟨ha, hs⟩ := h.setStep step
    exact ⟨congrArg ClientAnswer.setStep ha, hs⟩
  | read what => exact ⟨h.read what, h⟩

theorem answer_model (latency : Nat) (s : Session α σ) (call : ClientCall α) :
    (s.answer latency call).1.model = s.model := by
  cases call with
  | advance inputs => exact (Step.frame (e := .advance latency inputs _) rfl).2
  | reset step => exact (Step.frame (e := .reset step _) rfl).2
  | setStep step => exact (Step.frame (e := .setStep step _) rfl).2
  | read what => rfl

/-- The same calls of sessions that are alike are answered alike to the last. -/
theorem answers_alike (h : s.Alike R ratio s') (hu : s.model.unit.Mirrors R)
    (latency latency' : Nat → Nat) (calls : List (ClientCall α))
    (back : ∀ a ∈ s.answers latency calls, a.timedOut = false)
    (back' : ∀ a ∈ s'.answers latency' calls, a.timedOut = false) :
    List.Forall₂ (ClientAnswer.Alike ratio) (s.answers latency calls)
      (s'.answers latency' calls) := by
  induction calls generalizing s s' latency latency' with
  | nil => exact .nil
  | cons call rest ih =>
    obtain ⟨hcall, hrest⟩ := List.forall_mem_cons.1 back
    obtain ⟨hcall', hrest'⟩ := List.forall_mem_cons.1 back'
    obtain ⟨answer, alike⟩ := answer_alike h hu (latency 0) (latency' 0) call hcall hcall'
    have hu' : (s.answer (latency 0) call).1.model.unit.Mirrors R := by
      rw [answer_model]; exact hu
    exact .cons answer (ih alike hu' _ _ hrest hrest')

/-! ## What a reset leaves of the past -/

/-- After whatever two sessions over the unit have been through, a reset with a step is answered
alike in both of them, and if it succeeds so is everything that follows: no call that is made of
both tells which of them it was, whatever their steps take to compute, as long as none is given up
at its time limit. -/
def ErasesHistory (scenario : Scenario α) (specs : List (KpiSpec α)) (unit : EmulationUnit α σ) :
    Prop :=
  ∀ s s' : Session α σ, (lts scenario specs unit).Reachable s →
    (lts scenario specs unit).Reachable s' → ∀ step : α,
    timedOut (s.reset (some step)).2 = false → timedOut (s'.reset (some step)).2 = false →
    AnswersAlike ResetReport.Alike (s.reset (some step)).2 (s'.reset (some step)).2 ∧
      ((s.reset (some step)).2.isOk → ∀ latency latency' calls,
        (∀ a ∈ (s.reset (some step)).1.answers latency calls, a.timedOut = false) →
        (∀ a ∈ (s'.reset (some step)).1.answers latency' calls, a.timedOut = false) →
        List.Forall₂ (ClientAnswer.Alike (IsRatio specs))
          ((s.reset (some step)).1.answers latency calls)
          ((s'.reset (some step)).1.answers latency' calls))

theorem erasesHistory_of_mirrors {scenario : Scenario α} {specs : List (KpiSpec α)}
    {unit : EmulationUnit α σ} (hu : unit.Mirrors R) : ErasesHistory scenario specs unit := by
  intro s s' hr hr' step back back'
  have fixed := (fixed_inductive scenario specs unit).reachable hr
  have fixed' := (fixed_inductive scenario specs unit).reachable hr'
  have hscenario : s'.scenario = s.scenario := fixed'.scenario_eq.trans fixed.scenario_eq.symm
  have hunit : s'.model.unit = s.model.unit := fixed'.unit_eq.trans fixed.unit_eq.symm
  have hregistry : s'.model.registry = s.model.registry :=
    Except.ok.inj (fixed'.registry_ok.symm.trans fixed.registry_ok)
  have hmodel : s'.model = s.model := by
    calc s'.model = ⟨s'.model.unit, s'.model.registry⟩ := rfl
      _ = ⟨s.model.unit, s.model.registry⟩ := by rw [hunit, hregistry]
      _ = s.model := rfl
  have hindicators : s'.committed.kpis.indicators = s.committed.kpis.indicators := by
    have h' := fixed'.indicators_ok
    rw [hregistry] at h'
    exact Except.ok.inj (h'.symm.trans fixed.indicators_ok)
  have named : ∀ k ∈ s.committed.kpis.indicators, k.rule = .timeRatio → IsRatio specs k.name := by
    intro k hk hrule
    obtain ⟨spec, hspec, hresolve⟩ := mem_of_mapM_eq_ok fixed.indicators_ok k hk
    exact ⟨spec, hspec, KpiSpec.resolve_ratio hresolve hrule⟩
  have hwarm := fixed'.warmupEnd_eq.trans fixed.warmupEnd_eq.symm
  have hmirrors : s.model.unit.Mirrors R := by rw [fixed.unit_eq]; exact hu
  -- the step in force comes with the reset, and all else of the clock with the scenario
  have opened (outputs : SignalMap α) (id id' : SessionId) :
      (s.committed.opened (some step) outputs id).Alike (IsRatio specs)
        (s'.committed.opened (some step) outputs id') :=
    Committed.opened_alike (fixed'.start_eq.trans fixed.start_eq.symm) hwarm
      (fixed'.stop_eq.trans fixed.stop_eq.symm) rfl (KpiCalculator.reset_alike hindicators named)
      outputs id id'
  have restarted := reset_alike hmirrors hscenario hmodel hwarm opened back back'
  refine ⟨restarted.answers, fun ok latency latency' calls hc hc' => ?_⟩
  have ran : s.Step (.reset (some step) (s.reset (some step)).2) (s.reset (some step)).1 := rfl
  have ran' : s'.Step (.reset (some step) (s'.reset (some step)).2) (s'.reset (some step)).1 := rfl
  have alike : (s.reset (some step)).1.Alike R (IsRatio specs) (s'.reset (some step)).1 := by
    generalize (s.reset (some step)).2 = a at ran restarted ok
    generalize (s'.reset (some step)).2 = a' at ran' restarted
    cases restarted with
    | refused | failed => cases ok
    | begun _ committed _ worker =>
      exact ⟨by rw [ran'.frame.1, ran.frame.1, hscenario], by rw [ran'.frame.2, ran.frame.2, hmodel],
        committed, worker.mono fun _ _ hx _ => hx⟩
  have hmirrors' : (s.reset (some step)).1.model.unit.Mirrors R := by
    rw [ran.frame.2]; exact hmirrors
  exact answers_alike alike hmirrors' latency latency' calls hc hc'

/-- Over the bundled zone of any configuration, and over every unit that forgets what was before a
restart, a reset that succeeds erases all history; also on a machine that holds up calls. -/
theorem reset_erasesHistory :
    (∀ c : Configuration Float,
        ErasesHistory c.scenario c.kpis (Zone.ofParameters c.model).unit ∧
          ErasesHistory c.scenario c.kpis (Zone.ofParameters c.model).unit.paced) ∧
      ∀ (scenario : Scenario α) (specs : List (KpiSpec α)) (unit : EmulationUnit α σ),
        unit.Forgetful →
        ErasesHistory scenario specs unit ∧ ErasesHistory scenario specs unit.paced := by
  constructor
  · intro c
    have mirrors := (Zone.ofParameters c.model).unit_forgetful.mirrors
    exact ⟨erasesHistory_of_mirrors mirrors, erasesHistory_of_mirrors mirrors.paced⟩
  · intro scenario specs unit forgetful
    exact ⟨erasesHistory_of_mirrors forgetful.mirrors,
      erasesHistory_of_mirrors forgetful.mirrors.paced⟩

end Session

/-! ## A gauge with a past -/

namespace Gauge

/-- A gauge that counts the steps since it was started over. -/
def unit : EmulationUnit Float Nat where
  metadata := { overwrite := [], read := [{ path := "level" }] }
  restart _ _ := fun _ => .returned 0 ()
  set _ _ := fun made => .returned made ()
  doStep _ := fun made => .returned (made + 1) ()
  get _ := fun made => .returned made (Scalar.ofNat made)

theorem unit_forgetful : unit.Forgetful := fun _ _ _ _ _ => ⟨rfl, rfl⟩

/-- Eight seconds to score, in steps of three. -/
def scenario : Scenario Float where
  name := "gauge"
  start := 0.0
  stop := 10.0
  warmup := 2.0
  step := 3.0
  stepLimit := ⟨5⟩
  initLimit := ⟨7⟩

def ratio : KpiSpec Float where
  name := "time_rat"
  unit := ""
  kind := .computationalTimeRatio
  signals := []
  tag := none
  scale := 1.0
  comfort := none
  schedule := none

def registry : Registry Float :=
  ⟨[], [Registry.outputOf { path := "level" }], Registry.groupsOf [{ path := "level" }]⟩

/-- The session over the gauge, with calls that may be held up. -/
def session (delays : Nat → Nat) : Session Float (Paced Nat) where
  scenario := scenario
  model := { unit := unit.paced, registry }
  worker := .idle { inner := 0, delays }
  committed := .fresh scenario
    { kpis := [⟨⟨"time_rat", "", .timeRatio, [], 1.0⟩, 0.0⟩], computed := 0.0, simulated := 0.0 }
  begun := 0
  metrics := none

theorem opened (delays : Nat → Nat) :
    Session.Opened scenario [ratio] unit.paced (session delays) := by
  have hr : Registry.ofMetadata unit.paced.metadata = .ok registry := by
    obtain ⟨r, hr⟩ := eq_ok_of_toBool
      (show (Registry.ofMetadata unit.paced.metadata).toBool = true by decide +kernel)
    rw [hr, Registry.ofMetadata_ok hr]
    rfl
  exact ⟨_, _, Session.start_of_parts hr rfl scenario _, .inl rfl⟩

/-- What both clients do after their resets. -/
def calls : List (ClientCall Float) :=
  [.advance .empty, .read .kpiRecords, .setStep 1.0, .advance .empty, .read .status, .reset none,
    .read .measurements]

end Gauge

namespace Session

/-- One gauge has made a step. The other was held up in its first reset, which ran into its limit
and went on later. -/
theorem reset_erasesHistory_gauge :
    ∃ s s' : Session Float (Paced Nat), Gauge.unit.Forgetful ∧
      (lts Gauge.scenario [Gauge.ratio] Gauge.unit.paced).Reachable s ∧
      (lts Gauge.scenario [Gauge.ratio] Gauge.unit.paced).Reachable s' ∧
      s.committed.results.size = 1 ∧ s'.committed.results.size = 0 ∧
      timedOut (s.reset (some 4.0)).2 = false ∧ timedOut (s'.reset (some 4.0)).2 = false ∧
      (s.reset (some 4.0)).2.isOk ∧
      List.Forall₂ (ClientAnswer.Alike (IsRatio [Gauge.ratio]))
        ((s.reset (some 4.0)).1.answers (fun _ => 5) Gauge.calls)
        ((s'.reset (some 4.0)).1.answers (fun k => k) Gauge.calls) := by
  let M := lts Gauge.scenario [Gauge.ratio] Gauge.unit.paced
  let s := (((Gauge.session fun _ => 0).reset none).1.advance 5 .empty).1
  let late := ((Gauge.session fun k => if k = 0 then 1 else 0).reset none).1
  let s' := late.release id
  have hr : M.Reachable s :=
    (reachable_reset (.of_init (Gauge.opened _)) none).of_step (step_advance _ 5 .empty)
  have hr' : M.Reachable s' :=
    (reachable_reset (.of_init (Gauge.opened _)) none).of_step (l := .release) rfl
  have back : timedOut (s.reset (some 4.0)).2 = false := by decide +kernel
  have back' : timedOut (s'.reset (some 4.0)).2 = false := by decide +kernel
  have ok : (s.reset (some 4.0)).2.isOk := by decide +kernel
  obtain ⟨-, erases⟩ := reset_erasesHistory.2 Gauge.scenario [Gauge.ratio] Gauge.unit
    Gauge.unit_forgetful
  refine ⟨s, s', Gauge.unit_forgetful, hr, hr', by decide +kernel, by decide +kernel, back, back',
    ok, ?_⟩
  refine (erases s s' hr hr' 4.0 back back').2 ok _ _ _ ?_ ?_ <;> decide +kernel

end Session

end BuildingEmulation
