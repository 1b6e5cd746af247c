import BuildingEmulation.Proofs.Model.Tally
import BuildingEmulation.Proofs.Session.Scores
import Mathlib.Algebra.Order.BigOperators.Group.List

/-!
# The unit and the clock

A session counts on its unit being where its clock is. Failures that leave the unit inside a call
take the session out of service, and a step that did not return has not moved the unit. But an
exchange reads the outputs after its step has returned: if that fails, the call has come back, the
session stays ready, and the unit is one step ahead.

Results:
* `ready_steps`: the unit of a ready session is ahead of the clock by the steps it completed in
  advances that failed, and by nothing else. So it is where the clock is exactly if there are none.
* `not_ready_steps`: there may be some.
-/
namespace BuildingEmulation

/-- An advance that failed. -/
def SessionEvent.failedAdvance {α : Type} : SessionEvent α → Bool
  | .advance _ _ (.error _) => true
  | _ => false

namespace Session

section

variable {α σ : Type}

/-- The steps that the unit has completed since it was last restarted. -/
def steps (s : Session α (Recorded α σ)) : List α := s.worker.state.steps

/-- The steps that the unit completed in an advance that failed: it went on, and the clock did
not. -/
def wastedSteps (t : Transition (Session α (Recorded α σ)) (SessionEvent α)) : List α :=
  if t.label.failedAdvance then t.target.steps.drop t.source.steps.length else []

/-- The steps wasted since the last successful reset. -/
def wasted (ts : List (Transition (Session α (Recorded α σ)) (SessionEvent α))) : List α :=
  (sinceBegin ts).flatMap wastedSteps

theorem wasted_snoc (ts : List (Transition (Session α (Recorded α σ)) (SessionEvent α)))
    (t : Transition (Session α (Recorded α σ)) (SessionEvent α)) :
    wasted (ts ++ [t]) = if t.label.begins then [] else wasted ts ++ wastedSteps t := by
  rw [wasted, sinceBegin_snoc]
  split
  · rfl
  · rw [List.flatMap_append, List.flatMap_singleton]; rfl

/-- The advance was answered with an error that the model came back with. -/
def AnsweredBy (e : SessionEvent α) : Prop :=
  ∃ latency inputs error, e = .advance latency inputs (.error (.modelStep error)) ∧
    error.answered = true

end

/-! ## What calls do to the unit -/

section

variable {α σ : Type} [Scalar α] {s : Session α (Recorded α σ)} {unit : EmulationUnit α σ}
  {w : Worker α (Recorded α σ)} {limit : TimeLimit} {inputs : SignalMap α} {duration : α}

/-- An exchange that gave outputs has completed its step. -/
theorem exchange_ok (hm : s.model.unit = unit.recorded) {outputs : SignalMap α}
    (run : s.worker.run limit (s.model.exchange inputs duration) = (w, .ok outputs)) :
    ∃ r, w = .idle r ∧ r.steps = s.steps ++ [duration] := by
  obtain ⟨r, r', hidle, hx, hw⟩ := Worker.run_ok run
  have hd := Model.exchange_steps hm inputs duration r.steps r rfl
  rw [hx] at hd
  exact ⟨r', hw, by rw [steps, hidle]; exact hd⟩

/-- An exchange that failed, and is not in flight, was answered with an error. Its step has been
completed or not. -/
theorem exchange_error (hm : s.model.unit = unit.recorded) {failure : CallFailure α}
    (idle : ∃ r, s.worker = .idle r) (settled : failure.inFlight = false)
    (run : s.worker.run limit (s.model.exchange inputs duration) = (w, .error failure)) :
    failure.error.answered = true ∧
      ∃ r, w = .idle r ∧ (r.steps = s.steps ∨ r.steps = s.steps ++ [duration]) := by
  rcases Worker.run_error run with ⟨r, r', error, hidle, hx, hw, rfl⟩ | ⟨-, -, -, -, -, rfl⟩ |
    ⟨-, -, -, -, -, -, rfl⟩ | ⟨r, resume, hbusy, -, -⟩
  · have ha := s.model.exchange_answered inputs duration r trivial
    have hd := Model.exchange_steps hm inputs duration r.steps r rfl
    rw [hx] at ha hd
    exact ⟨ha, r', hw, by rw [steps, hidle]; exact hd⟩
  · cases settled
  · cases settled
  · obtain ⟨r', hidle⟩ := idle
    rw [hbusy] at hidle; cases hidle

/-- A warm-up that gave outputs has started the tally over. -/
theorem warmUp_ok (hm : s.model.unit = unit.recorded) {start warmupEnd : α}
    {outputs : SignalMap α}
    (run : s.worker.run limit (s.model.warmUp start warmupEnd) = (w, .ok outputs)) :
    ∃ r, w = .idle r ∧ r.steps = [] := by
  obtain ⟨r, r', -, hx, hw⟩ := Worker.run_ok run
  have hd := Model.warmUp_steps hm start warmupEnd r.steps r rfl
  rw [hx] at hd
  exact ⟨r', hw, hd⟩

end

/-! ## The account of a window -/

variable {σ : Type}

/-- A ready session has its unit to itself, and the unit is ahead of the clock by what was wasted.
Only an advance whose model came back with an error can have wasted anything. -/
structure Accounted (t₀ : Rat) (ts : List (Transition (Session Rat (Recorded Rat σ))
    (SessionEvent Rat))) (s : Session Rat (Recorded Rat σ)) : Prop where
  idle : ∃ r, s.worker = .idle r
  balance : s.steps.sum = s.committed.clock.time - t₀ + (wasted ts).sum
  positive : ∀ d ∈ wasted ts, 0 < d
  answered : ∀ t ∈ sinceBegin ts, wastedSteps t ≠ [] → AnsweredBy t.label

variable {t₀ : Rat} {ts : List (Transition (Session Rat (Recorded Rat σ)) (SessionEvent Rat))}
  {s s' : Session Rat (Recorded Rat σ)} {e : SessionEvent Rat}

/-- One more transition of the same window: the unit gets as far ahead of the clock as the
transition wastes. -/
theorem Accounted.snoc (h : Accounted t₀ ts s) (hb : e.begins = false)
    (idle : ∃ r, s'.worker = .idle r)
    (ahead : s'.steps.sum - s'.committed.clock.time =
      s.steps.sum - s.committed.clock.time + (wastedSteps ⟨s, e, s'⟩).sum)
    (positive : ∀ d ∈ wastedSteps ⟨s, e, s'⟩, 0 < d)
    (answered : wastedSteps ⟨s, e, s'⟩ ≠ [] → AnsweredBy e) :
    Accounted t₀ (ts ++ [⟨s, e, s'⟩]) s' := by
  have hn : ¬ e.begins = true := by rw [hb]; exact Bool.false_ne_true
  have hw : wasted (ts ++ [⟨s, e, s'⟩]) = wasted ts ++ wastedSteps ⟨s, e, s'⟩ := by
    rw [wasted_snoc, if_neg hn]
  refine ⟨idle, ?_, ?_, ?_⟩
  · have := h.balance
    rw [hw, List.sum_append]
    linarith
  · rw [hw]
    intro d hd
    rcases List.mem_append.1 hd with hd | hd
    · exact h.positive d hd
    · exact positive d hd
  · intro t hm
    rw [sinceBegin_snoc, if_neg hn] at hm
    rcases List.mem_append.1 hm with hm | hm
    · exact h.answered t hm
    · rw [List.mem_singleton.1 hm]
      exact answered

theorem wastedSteps_nil (h : e.failedAdvance = true → s'.steps = s.steps) :
    wastedSteps ⟨s, e, s'⟩ = [] := by
  unfold wastedSteps
  split
  · next hf => rw [h hf]; exact List.drop_length
  · rfl

/-- The unit completes no step and the clock stands still. -/
theorem Accounted.still (h : Accounted t₀ ts s) (hb : e.begins = false)
    (hw : ∃ r, s'.worker = .idle r ∧ r.steps = s.steps)
    (ht : s'.committed.clock.time = s.committed.clock.time) :
    Accounted t₀ (ts ++ [⟨s, e, s'⟩]) s' := by
  obtain ⟨r, hr, hs⟩ := hw
  have hs : s'.steps = s.steps := by rw [steps, hr]; exact hs
  have hn : wastedSteps ⟨s, e, s'⟩ = [] := wastedSteps_nil fun _ => hs
  refine h.snoc hb ⟨r, hr⟩ ?_ ?_ ?_
  · rw [hn, hs, ht, List.sum_nil, add_zero]
  · rw [hn]; exact fun _ hd => nomatch hd
  · rw [hn]; exact fun hne => absurd rfl hne

/-- The unit completes one step and the clock moves along. -/
theorem Accounted.moved (h : Accounted t₀ ts s) {duration : Rat} (hb : e.begins = false)
    (hf : e.failedAdvance = false)
    (hw : ∃ r, s'.worker = .idle r ∧ r.steps = s.steps ++ [duration])
    (ht : s'.committed.clock.time = s.committed.clock.time + duration) :
    Accounted t₀ (ts ++ [⟨s, e, s'⟩]) s' := by
  obtain ⟨r, hr, hs⟩ := hw
  have hs : s'.steps = s.steps ++ [duration] := by rw [steps, hr]; exact hs
  have hn : wastedSteps ⟨s, e, s'⟩ = [] := wastedSteps_nil fun h => by rw [hf] at h; cases h
  refine h.snoc hb ⟨r, hr⟩ ?_ ?_ ?_
  · rw [hn, hs, ht, List.sum_append, List.sum_singleton, List.sum_nil]
    ring
  · rw [hn]; exact fun _ hd => nomatch hd
  · rw [hn]; exact fun hne => absurd rfl hne

/-- The unit completes one step and the clock stands still. -/
theorem Accounted.ahead (h : Accounted t₀ ts s) {duration : Rat} (hp : 0 < duration)
    (hb : e.begins = false) (ha : AnsweredBy e)
    (hw : ∃ r, s'.worker = .idle r ∧ r.steps = s.steps ++ [duration])
    (ht : s'.committed.clock.time = s.committed.clock.time) :
    Accounted t₀ (ts ++ [⟨s, e, s'⟩]) s' := by
  obtain ⟨r, hr, hs⟩ := hw
  have hs : s'.steps = s.steps ++ [duration] := by rw [steps, hr]; exact hs
  have hf : e.failedAdvance = true := by obtain ⟨_, _, _, rfl, -⟩ := ha; rfl
  have hn : wastedSteps ⟨s, e, s'⟩ = [duration] := by
    rw [wastedSteps, if_pos hf, hs, List.drop_left]
  refine h.snoc hb ⟨r, hr⟩ ?_ ?_ ?_
  · rw [hn, hs, ht, List.sum_append]
    ring
  · rw [hn]
    intro d hd
    rw [List.mem_singleton.1 hd]
    exact hp
  · exact fun _ => ha

/-- A session that has just begun. -/
theorem Accounted.begun (hb : e.begins = true) (hw : ∃ r, s'.worker = .idle r ∧ r.steps = [])
    (ht : s'.committed.clock.time = t₀) : Accounted t₀ (ts ++ [⟨s, e, s'⟩]) s' := by
  obtain ⟨r, hr, hs⟩ := hw
  have hs : s'.steps = [] := by rw [steps, hr]; exact hs
  have hsince : sinceBegin (ts ++ [⟨s, e, s'⟩]) = [] := by rw [sinceBegin_snoc]; exact if_pos hb
  have hwaste : wasted (ts ++ [⟨s, e, s'⟩]) = [] := by rw [wasted, hsince]; rfl
  refine ⟨⟨r, hr⟩, ?_, ?_, ?_⟩
  · rw [hs, hwaste, ht, List.sum_nil]; ring
  · rw [hwaste]; exact fun _ hd => nomatch hd
  · rw [hsince]; exact fun _ hm => nomatch hm

variable {scenario : Scenario Rat} {specs : List (KpiSpec Rat)} {unit : EmulationUnit Rat σ}
  {s₀ : Session Rat (Recorded Rat σ)}

/-- Every step that leads to a ready session keeps the account. -/
theorem accounted_step (hf : Fixed scenario specs unit.recorded s)
    (ht : s.committed.Tracked scenario.warmupEnd s.model.registry.outputs (latencies ts))
    (h : s.committed.lifecycle = .ready → Accounted scenario.warmupEnd ts s) (hs : s.Step e s')
    (ready' : s'.committed.lifecycle = .ready) :
    Accounted scenario.warmupEnd (ts ++ [⟨s, e, s'⟩]) s' := by
  have hc := hs.change
  generalize hw : s'.worker = w at hc
  generalize hcm : s'.committed = c at hc
  have same (hsame : w = s.worker) (hl : s.committed.lifecycle = .ready) :
      ∃ r, s'.worker = .idle r ∧ r.steps = s.steps := by
    obtain ⟨r, hr⟩ := (h hl).idle
    exact ⟨r, (hw.trans hsame).trans hr, by rw [steps, hr]; rfl⟩
  cases hc with
  | refused | resetRefused | stepRefused =>
    have ready : s.committed.lifecycle = .ready := hcm ▸ ready'
    exact (h ready).still rfl (same rfl ready) (by rw [hcm])
  | stepSet =>
    have ready : s.committed.lifecycle = .ready := by rw [hcm] at ready'; exact ready'
    exact (h ready).still rfl (same rfl ready) (by rw [hcm]; rfl)
  | released =>
    have ready : s.committed.lifecycle = .ready := hcm ▸ ready'
    obtain ⟨r, hr⟩ := (h ready).idle
    exact (h ready).still rfl (same (by rw [hr]; rfl) ready) (by rw [hcm])
  | resetFailed => rw [hcm] at ready'; cases ready'
  | uncommitted ready valid run log =>
    rw [ht.log_takes ready] at log
    cases log
  | @failed latency inputs _ failure ready valid run =>
    have running : s.committed.clock.Running := ⟨ht.before ready, ht.step_pos⟩
    have htime : s'.committed.clock.time = s.committed.clock.time := by
      rw [hcm, (s.committed.fail_fields _).1]
    have settled : failure.inFlight = false := by
      cases hi : failure.inFlight with
      | false => rfl
      | true => rw [hcm, hi] at ready'; cases ready'
    obtain ⟨answered, r, hr, hd | hd⟩ := exchange_error hf.unit_eq (h ready).idle settled run
    · exact (h ready).still rfl ⟨r, hw.trans hr, hd⟩ htime
    · exact (h ready).ahead running.plan_pos rfl ⟨_, _, _, rfl, answered⟩
        ⟨r, hw.trans hr, hd⟩ htime
  | advanced ready valid run =>
    obtain ⟨r, hr, hd⟩ := exchange_ok hf.unit_eq run
    have hend : s.committed.move.reachedEnd = false := by
      cases hm : s.committed.move.reachedEnd with
      | false => rfl
      | true => rw [hcm, Committed.record, hm] at ready'; cases ready'
    have htime : s'.committed.clock.time = s.committed.clock.time + s.committed.clock.plan := by
      rw [hcm]
      exact (Clock.preview_before hend).1
    exact (h ready).moved rfl rfl ⟨r, hw.trans hr, hd⟩ htime
  | begun valid run =>
    obtain ⟨r, hr, hd⟩ := warmUp_ok hf.unit_eq run
    exact .begun rfl ⟨r, hw.trans hr, hd⟩ (by rw [hcm]; exact hf.warmupEnd_eq)

/-- Along every run, whenever the session is ready. -/
theorem accounted_run (hv : scenario.Window) (h₀ : (lts scenario specs unit.recorded).init s₀)
    (hr : (lts scenario specs unit.recorded).Run s₀ ts s) :
    s.committed.lifecycle = .ready → Accounted scenario.warmupEnd ts s := by
  induction hr with
  | nil =>
    intro ready
    obtain ⟨-, -, -, -, kpis, -, hc⟩ := Opened.parts h₀
    rw [hc] at ready; cases ready
  | snoc run step ih =>
    obtain ⟨hf, ht⟩ := tracked_run hv h₀ run
    exact accounted_step hf ht ih step

/-- Between the calls of a ready session the unit is idle, and it is ahead of the committed clock
by the steps that it completed in failed advances since the last reset. Unit and clock agree
exactly if there are none, and only an advance that the model answered with an error can have left
one behind: no timeout, no lost worker, no refused commit. -/
theorem ready_steps (hv : scenario.validate = .ok ())
    (h₀ : (lts scenario specs unit.recorded).init s₀)
    (hr : (lts scenario specs unit.recorded).Run s₀ ts s)
    (ready : s.committed.lifecycle = .ready) :
    (∃ r, s.worker = .idle r) ∧
      s.steps.sum = s.committed.clock.time - scenario.warmupEnd + (wasted ts).sum ∧
      (s.steps.sum = s.committed.clock.time - scenario.warmupEnd ↔ wasted ts = []) ∧
      ∀ t ∈ sinceBegin ts, wastedSteps t ≠ [] → AnsweredBy t.label := by
  have h := accounted_run (Scenario.validate_window hv) h₀ hr ready
  refine ⟨h.idle, h.balance, ?_, h.answered⟩
  constructor
  · intro heq
    by_contra hne
    have hpos : 0 < (wasted ts).sum := List.sum_pos _ h.positive hne
    have := h.balance
    linarith
  · intro hnil
    rw [h.balance, hnil, List.sum_nil, add_zero]

end Session

/-! ## A unit that runs ahead -/

namespace Sample

/-- A tank whose gauge cannot be read once it has made its first step. -/
def wornGauge : EmulationUnit Rat Nat where
  metadata := metadata
  restart _ _ := fun _ => .returned 0 ()
  set _ _ := fun made => .returned made ()
  doStep _ := fun made => .returned (made + 1) ()
  get name := fun made =>
    if made = 1 then .failed made (.unknownVariable name) else .returned made 4

/-- The session over it, as it was opened. -/
def wornOpened : Session Rat (Recorded Rat Nat) := session wornGauge.recorded { inner := 0 }

/-- After a reset. -/
def wornReset : Session Rat (Recorded Rat Nat) := (wornOpened.reset none).1

/-- After an advance whose outputs could not be read. -/
def wornAhead : Session Rat (Recorded Rat Nat) := (wornReset.advance 0 .empty).1

/-- How it came to that. -/
def wornRun : List (Transition (Session Rat (Recorded Rat Nat)) (SessionEvent Rat)) :=
  [⟨wornOpened, .reset none (wornOpened.reset none).2, wornReset⟩,
    ⟨wornReset, .advance 0 .empty (wornReset.advance 0 .empty).2, wornAhead⟩]

theorem wornOpened_init : (Session.lts scenario [fill] wornGauge.recorded).init wornOpened :=
  opened rfl _

theorem wornRun_run :
    (Session.lts scenario [fill] wornGauge.recorded).Run wornOpened wornRun wornAhead :=
  .snoc (.snoc .nil rfl) rfl

theorem wornAhead_state :
    wornAhead.committed.lifecycle = .ready ∧ wornAhead.committed.clock.time = 2 ∧
      wornAhead.steps = [3] ∧ scenario.warmupEnd = 2 := by
  decide +kernel

end Sample

namespace Session

/-- The session over the worn gauge is ready at its second second, and its unit at its fifth. -/
theorem ready_steps_worn :
    Sample.wornAhead.committed.lifecycle = .ready ∧
      Sample.wornAhead.committed.clock.time = 2 ∧ Sample.wornAhead.steps = [3] ∧
      Sample.wornAhead.steps.sum = 2 - Sample.scenario.warmupEnd + (wasted Sample.wornRun).sum ∧
      wasted Sample.wornRun ≠ [] := by
  obtain ⟨hready, htime, hsteps, hw⟩ := Sample.wornAhead_state
  obtain ⟨-, hb, hiff, -⟩ := ready_steps Sample.scenario_valid Sample.wornOpened_init
    Sample.wornRun_run hready
  refine ⟨hready, htime, hsteps, htime ▸ hb, fun hn => ?_⟩
  have := hiff.2 hn
  rw [hsteps, htime, hw] at this
  norm_num at this

/-- A ready session may be out of step with its unit. -/
theorem not_ready_steps :
    ¬ ∀ (scenario : Scenario Rat) (specs : List (KpiSpec Rat)) (unit : EmulationUnit Rat Nat)
      (s₀ s : Session Rat (Recorded Rat Nat))
      (ts : List (Transition (Session Rat (Recorded Rat Nat)) (SessionEvent Rat))),
      scenario.validate = .ok () → (lts scenario specs unit.recorded).init s₀ →
      (lts scenario specs unit.recorded).Run s₀ ts s → s.committed.lifecycle = .ready →
      s.steps.sum = s.committed.clock.time - scenario.warmupEnd := by
  intro h
  obtain ⟨hready, htime, hsteps, hw⟩ := Sample.wornAhead_state
  have heq := h Sample.scenario [Sample.fill] Sample.wornGauge Sample.wornOpened Sample.wornAhead
    Sample.wornRun Sample.scenario_valid Sample.wornOpened_init Sample.wornRun_run hready
  rw [hsteps, htime, hw] at heq
  norm_num at heq

end Session

end BuildingEmulation
