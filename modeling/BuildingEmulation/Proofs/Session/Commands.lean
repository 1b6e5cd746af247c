import BuildingEmulation.Proofs.Engine.Standing
import BuildingEmulation.Proofs.Model.Commands
import BuildingEmulation.Proofs.Session.Fixed
import Mathlib.Data.List.Forall2

/-!
# What the unit of a session gets to see

The calls of a session reach its unit as jobs, one at a time: a job that is still inside the unit
keeps every later one away from it. So the unit sees whole blocks of calls one after the other, and
a block stops early only at a call that does not return.

Results:
* `Session.Step.worker_cases`: what a call makes of the worker.
* `Session.log_run`: the record of the unit is that of the jobs that were sent to it.
-/
namespace BuildingEmulation

variable {α σ : Type}

/-! ## Workers -/

namespace Worker

variable {β : Type} {S : σ → Prop}

/-- `S` holds of the unit now, and wherever a runaway call may leave it. -/
def Keeps (S : σ → Prop) : Worker α σ → Prop
  | idle s => S s
  | busy s resume => S s ∧ (resume s).Passes (fun s _ => S s) S

theorem Keeps.state {w : Worker α σ} (h : w.Keeps S) : S w.state := by
  cases w with
  | idle s => exact h
  | busy s resume => exact h.1

theorem keeps_ofProgress {p : Progress σ (ModelError α) β} (h : p.Passes (fun s _ => S s) S) :
    (ofProgress p : Worker α σ).Keeps S := by
  cases p with
  | blocked s resume => exact ⟨h.1, h.2.discard⟩
  | _ => exact h

theorem Keeps.release {w : Worker α σ} (h : w.Keeps S) : w.release.Keeps S := by
  cases w with
  | idle s => exact h
  | busy s resume => exact keeps_ofProgress h.2

/-- A call is queued behind a runaway one, or it goes into the unit. -/
theorem run_cases {w w' : Worker α σ} {limit : TimeLimit} {call : Call σ (ModelError α) β}
    {answer : Except (CallFailure α) β} (h : w.run limit call = (w', answer)) :
    ((∃ s resume, w = busy s resume) ∧ w' = w ∧ ∀ b, answer ≠ .ok b) ∨
      ∃ s, w = idle s ∧ w' = ofProgress (call s) ∧
        ∀ b, answer = .ok b → ∃ s', call s = .returned s' b := by
  cases w with
  | busy s resume => cases h; exact .inl ⟨⟨s, resume, rfl⟩, rfl, nofun⟩
  | idle s =>
    cases h
    refine .inr ⟨s, rfl, rfl, fun b hb => ?_⟩
    cases hp : call s <;> rw [hp] at hb <;> cases hb
    exact ⟨_, rfl⟩

end Worker

/-! ## Jobs -/

/-- A call that was answered with outputs. -/
def SessionEvent.succeeds : SessionEvent α → Bool
  | .advance _ _ (.ok _) | .reset _ (.ok _) => true
  | _ => false

def Intent.job? : Intent α → Option (Job α)
  | send job => some job
  | _ => none

variable [Scalar α]

/-- The calls that a job makes on the unit, reading aside. -/
def Job.commands (scenario : Scenario α) (r : Registry α) : Job α → List (UnitCall α)
  | .reset _ => [.restart scenario.start scenario.warmupEnd]
  | .advance p _ => exchangeCalls r p.inputs p.duration

theorem Job.call_carries {model : Model α (Recorded α σ)} {unit : EmulationUnit α σ}
    (hm : model.unit = unit.recorded) (scenario : Scenario α) (job : Job α) :
    Call.Carries (job.commands scenario model.registry) (job.call scenario model) := by
  cases job with
  | reset step => exact Model.warmUp_carries hm scenario.start scenario.warmupEnd
  | advance p latency => exact Model.exchange_carries hm p.inputs p.duration

namespace Session

/-- The job with which a call gets into the unit. -/
def job? (s : Session α σ) (e : SessionEvent α) : Option (Job α) :=
  match s.worker, e.call? with
  | .idle _, some (request, _) => (request.intent s.model.registry s.committed).job?
  | _, _ => none

variable {s s' : Session α σ} {e : SessionEvent α}

theorem job?_busy {state : σ} {resume : σ → Progress σ (ModelError α) Unit}
    (h : s.worker = .busy state resume) : s.job? e = none := by
  simp only [job?, h]

theorem job?_refused {request : Request α} {reply reply' : Reply α}
    (he : e.call? = some (request, reply))
    (intent : request.intent s.model.registry s.committed = .refuse reply') :
    s.job? e = none := by
  cases hw : s.worker <;> simp only [job?, hw, he, intent, Intent.job?]

theorem job?_sent {request : Request α} {reply : Reply α} {job : Job α} {state : σ}
    (h : s.worker = .idle state) (he : e.call? = some (request, reply))
    (intent : request.intent s.model.registry s.committed = .send job) : s.job? e = some job := by
  simp only [job?, h, he, intent, Intent.job?]

/-- Nothing new gets into the unit, or the job of a call does, and is answered if it returns. -/
def WorkerMove (s : Session α σ) (e : SessionEvent α) (w : Worker α σ) : Prop :=
  (s.job? e = none ∧ (w = s.worker ∨ w = s.worker.release)) ∨
    ∃ job state, s.worker = .idle state ∧ s.job? e = some job ∧
      w = .ofProgress (job.call s.scenario s.model state) ∧
      (e.succeeds = true → ∃ state' outputs,
        job.call s.scenario s.model state = .returned state' outputs)

theorem workerMove_of_run {request : Request α} {reply : Reply α} {job : Job α}
    {limit : TimeLimit} {w : Worker α σ} {answer : Except (CallFailure α) (SignalMap α)}
    (he : e.call? = some (request, reply))
    (intent : request.intent s.model.registry s.committed = .send job)
    (run : s.worker.run limit (job.call s.scenario s.model) = (w, answer))
    (succeeds : e.succeeds = true → ∃ outputs, answer = .ok outputs) : WorkerMove s e w := by
  rcases Worker.run_cases run with ⟨⟨state, resume, hw⟩, rfl, -⟩ | ⟨state, hw, rfl, hok⟩
  · exact .inl ⟨job?_busy hw, .inl rfl⟩
  · refine .inr ⟨job, state, hw, job?_sent hw he intent, rfl, fun hs => ?_⟩
    obtain ⟨outputs, ha⟩ := succeeds hs
    obtain ⟨state', hc⟩ := hok outputs ha
    exact ⟨state', outputs, hc⟩

/-- What a call makes of the worker. -/
theorem Step.worker_cases (h : s.Step e s') : WorkerMove s e s'.worker := by
  have hc := h.change
  generalize s'.worker = w at hc ⊢
  generalize s'.committed = c at hc
  cases hc with
  | refused plan => exact .inl ⟨job?_refused rfl (intent_advance_error plan), .inl rfl⟩
  | resetRefused valid => exact .inl ⟨job?_refused rfl (intent_reset_error valid), .inl rfl⟩
  | failed ready valid run | uncommitted ready valid run =>
    exact workerMove_of_run rfl (intent_advance_ok (Committed.plan_ready ready valid)) run nofun
  | advanced ready valid run =>
    exact workerMove_of_run rfl (intent_advance_ok (Committed.plan_ready ready valid)) run
      fun _ => ⟨_, rfl⟩
  | resetFailed valid run => exact workerMove_of_run rfl (intent_reset_ok valid) run nofun
  | begun valid run => exact workerMove_of_run rfl (intent_reset_ok valid) run fun _ => ⟨_, rfl⟩
  | stepRefused | stepSet =>
    refine .inl ⟨?_, .inl rfl⟩
    cases hw : s.worker <;> simp only [job?, hw, SessionEvent.call?, Request.intent, Intent.job?]
  | released =>
    refine .inl ⟨?_, .inr rfl⟩
    cases hw : s.worker <;> simp only [job?, hw, SessionEvent.call?]

end Session

/-! ## The record of the jobs -/

/-- The calls of a job, and whether it was answered with outputs. -/
structure Block (α : Type) where
  calls : List (UnitCall α)
  answered : Bool

/-- The unit has seen the block, and all of it if it was answered. -/
def Block.Seen (b : Block α) (es : List (UnitEvent α)) : Prop :=
  Performed b.calls es ∧ (b.answered = true → es = whole b.calls)

/-- The blocks of the jobs that got into the unit. -/
def blocks (scenario : Scenario α) (r : Registry α)
    (ts : List (Transition (Session α σ) (SessionEvent α))) : List (Block α) :=
  ts.filterMap fun t =>
    (t.source.job? t.label).map fun job => ⟨job.commands scenario r, t.label.succeeds⟩

theorem blocks_snoc (scenario : Scenario α) (r : Registry α)
    (ts : List (Transition (Session α σ) (SessionEvent α)))
    (t : Transition (Session α σ) (SessionEvent α)) :
    blocks scenario r (ts ++ [t]) = blocks scenario r ts ++
      ((t.source.job? t.label).map fun job =>
        (⟨job.commands scenario r, t.label.succeeds⟩ : Block α)).toList := by
  rw [blocks, List.filterMap_append]
  cases h : t.source.job? t.label <;> simp [blocks, h]

/-- After what it said first, the record says that the unit has seen these blocks. -/
def Recorded.HasSeen (first : List (UnitEvent α)) (bs : List (Block α)) (r : Recorded α σ) : Prop :=
  ∃ traces, List.Forall₂ Block.Seen bs traces ∧ r.driving = first ++ traces.flatten

omit [Scalar α] in
theorem Recorded.HasSeen.snoc {first es : List (UnitEvent α)} {bs : List (Block α)} {b : Block α}
    {r r' : Recorded α σ} (h : r.HasSeen first bs) (hb : b.Seen es)
    (hd : r'.driving = r.driving ++ es) : r'.HasSeen first (bs ++ [b]) := by
  obtain ⟨traces, hs, hr⟩ := h
  refine ⟨traces ++ [es], List.rel_append hs (.cons hb .nil), ?_⟩
  rw [hd, hr, List.flatten_append, List.flatten_singleton, List.append_assoc]

namespace Session

variable {unit : EmulationUnit α σ} {scenario : Scenario α} {specs : List (KpiSpec α)}
  {s₀ s s' : Session α (Recorded α σ)} {e : SessionEvent α} {first : List (UnitEvent α)}
  {ts : List (Transition (Session α (Recorded α σ)) (SessionEvent α))} {r : Registry α}

theorem log_step (hunit : s.model.unit = unit.recorded) (hscenario : s.scenario = scenario)
    (hr : s.model.registry = r) (h : s.worker.Keeps (·.HasSeen first (blocks scenario r ts)))
    (hs : s.Step e s') :
    s'.worker.Keeps (·.HasSeen first (blocks scenario r (ts ++ [⟨s, e, s'⟩]))) := by
  rw [blocks_snoc]
  rcases hs.worker_cases with ⟨hj, hw⟩ | ⟨job, state, hw, hj, hw', hok⟩
  · rw [hj, Option.map_none, Option.toList_none, List.append_nil]
    rcases hw with hw | hw
    · rw [hw]; exact h
    · rw [hw]; exact h.release
  · rw [hj, hw', Option.map_some, Option.toList_some]
    rw [hw] at h
    have seen : state.HasSeen first (blocks scenario r ts) := h
    have passes := job.call_carries hunit s.scenario _ state rfl
    rw [hscenario, hr] at passes
    -- the caller may have been answered with an error while the job is still inside
    cases hsucc : e.succeeds with
    | true =>
      obtain ⟨state', outputs, hc⟩ := hok hsucc
      rw [hscenario] at hc ⊢
      rw [hc] at passes ⊢
      exact seen.snoc ⟨.inl rfl, fun _ => rfl⟩ passes
    | false =>
      rw [hscenario]
      refine Worker.keeps_ofProgress (passes.mono ?_ ?_)
      · exact fun _ _ hd => seen.snoc ⟨.inl rfl, nofun⟩ hd
      · rintro _ ⟨es, hp, hd⟩
        exact seen.snoc ⟨hp, nofun⟩ hd

/-- The record of the unit is that of the jobs that were sent to it. -/
theorem log_run (h₀ : (lts scenario specs unit.recorded).init s₀)
    (hr : (lts scenario specs unit.recorded).Run s₀ ts s) :
    s.worker.Keeps
      (·.HasSeen s₀.worker.state.driving (blocks scenario s₀.model.registry ts)) := by
  have inductive_ := fixed_inductive scenario specs unit.recorded
  have h := hr.invariant (P := fun ts s => Fixed scenario specs unit.recorded s ∧
    s.model.registry = s₀.model.registry ∧ s.worker.Keeps
      (·.HasSeen s₀.worker.state.driving (blocks scenario s₀.model.registry ts))) ?_ ?_
  · exact h.2.2
  · obtain ⟨-, -, -, ⟨state, hw⟩, -⟩ := Opened.parts h₀
    refine ⟨inductive_.init s₀ h₀, rfl, ?_⟩
    rw [hw]
    exact ⟨[], .nil, (List.append_nil _).symm⟩
  · intro ts s e s' ⟨hf, hreg, hk⟩ hs
    obtain ⟨-, hm⟩ := Step.frame hs
    exact ⟨inductive_.step s e s' hf hs, hm ▸ hreg,
      log_step hf.unit_eq hf.scenario_eq hreg hk hs⟩

end Session

end BuildingEmulation
