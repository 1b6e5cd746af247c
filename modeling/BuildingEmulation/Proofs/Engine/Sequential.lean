import BuildingEmulation.Proofs.Engine.Call
import BuildingEmulation.Proofs.Session.Fixed

/-!
# Sessions without tasks

`Session` runs each call to its end, or to its limit, before anything else happens. That is one of
the orders in which a session and its tasks can go on, so what holds in all of them holds of every
session.

Results:
* `represents_call`: each call of a session is one of the session with its tasks, with the same
  answer.
* `represents_step`: each step of a session is a run of the session with its tasks.
* `represents_reachable`: each session that can be reached stands for such a run.
* `Session.idle_of_ready`: nothing has run away with the unit of a ready session.
-/
namespace BuildingEmulation

variable {α σ : Type}

namespace Engine

variable {e e' : Engine α σ} {s s' : Session α σ}

/-! ## Workers -/

/-- The lock, and the task inside the unit, as a worker. -/
inductive HasWorker (e : Engine α σ) : Worker α σ → Prop
  | idle (lock : e.lock = none) : HasWorker e (.idle e.unit)
  | busy {i t rest} (lock : e.lock = some i) (task : e.tasks[i]? = some t)
      (inside : t.stage = .inside rest) : HasWorker e (.busy e.unit fun s => (rest s).discard)

/-- Nothing but the unit, the lock and the stages of tasks makes the worker. -/
theorem HasWorker.congr {w : Worker α σ} (h : e.HasWorker w) (hunit : e'.unit = e.unit)
    (hlock : e'.lock = e.lock) (htasks : ∀ (i : Nat) (t : Task α σ), e.tasks[i]? = some t →
      ∃ t', e'.tasks[i]? = some t' ∧ t'.stage = t.stage) : e'.HasWorker w := by
  cases h with
  | idle lock => rw [← hunit]; exact .idle (hlock.trans lock)
  | busy lock task inside =>
    obtain ⟨t', task', stage⟩ := htasks _ _ task
    rw [← hunit]
    exact .busy (hlock.trans lock) task' (stage.trans inside)

theorem HasWorker.same {w : Worker α σ} (h : e.HasWorker w) (hunit : e'.unit = e.unit)
    (hlock : e'.lock = e.lock) (htasks : e'.tasks = e.tasks) : e'.HasWorker w :=
  h.congr hunit hlock fun _ t ht => ⟨t, htasks ▸ ht, rfl⟩

/-- A task that keeps its stage leaves the worker as it is. -/
theorem HasWorker.setTask {w : Worker α σ} (h : e.HasWorker w) {i : Nat} {t t' : Task α σ}
    (task : e.tasks[i]? = some t) (stage : t'.stage = t.stage) (hunit : e'.unit = e.unit)
    (hlock : e'.lock = e.lock) (htasks : e'.tasks = e.tasks.set i t') : e'.HasWorker w := by
  refine h.congr hunit hlock fun j u hu => ?_
  rw [htasks, getElem?_set_of task]
  split
  · next hj => subst hj; cases task.symm.trans hu; exact ⟨t', rfl, stage⟩
  · exact ⟨u, hu, rfl⟩

/-- The session after the unit has gone on with a task. -/
def afterWork (e : Engine α σ) (i : Nat) (t : Task α σ)
    (p : Progress σ (ModelError α) (SignalMap α)) : Engine α σ :=
  { e with
    unit := p.state
    lock := if (Stage.ofProgress p).holds then e.lock else none }.setTask i
      { t with stage := .ofProgress p }

theorem hasWorker_afterWork {i : Nat} {t : Task α σ} (lock : e.lock = some i)
    (task : e.tasks[i]? = some t) (p : Progress σ (ModelError α) (SignalMap α)) :
    (e.afterWork i t p).HasWorker (.ofProgress p) := by
  cases p with
  | blocked s resume => exact .busy lock (set_self task _) rfl
  | returned | failed | aborted => exact .idle rfl

/-! ## Calls on the model -/

/-- The session while a caller waits for the task that was sent off last. -/
def pending (e : Engine α σ) (job : Job α) (phase : CallPhase) (stage : Stage α σ)
    (lock : Option Nat) : Engine α σ :=
  { e with
    lock
    tasks := e.tasks ++ [{ job, phase, stage, told := none }]
    turn := .awaiting e.tasks.length }

section

variable (e : Engine α σ) (job : Job α) (phase phase' : CallPhase) (stage stage' : Stage α σ)
  (lock : Option Nat)

theorem pending_task : (e.pending job phase stage lock).tasks[e.tasks.length]? =
    some { job, phase, stage, told := none } := List.getElem?_concat_length ..

theorem pending_setTask : (e.pending job phase stage lock).setTask e.tasks.length
    { job, phase := phase', stage := stage', told := none } =
      e.pending job phase' stage' lock := by
  simp [pending, setTask]

end

variable [Scalar α]

theorem Step.work_of {i : Nat} {t : Task α σ} {rest : Call σ (ModelError α) (SignalMap α)}
    {p : Progress σ (ModelError α) (SignalMap α)} (task : e.tasks[i]? = some t)
    (inside : t.stage = .inside rest) (hp : rest e.unit = p) :
    e.Step (.work i) (e.afterWork i t p) := by
  subst hp
  exact .work task inside

/-- Nobody passes the gate, and nobody leaves it. -/
def Behind (ts : List (Transition (Engine α σ) (Move α))) : Prop :=
  ∀ x ∈ ts, x.label.ofTask = true ∨ x.label.ofCaller = true

/-- Who waits for a task that runs is told how it ended, or else that its limit has passed. -/
theorem told_step {i : Nat} {t : Task α σ} {p : Progress σ (ModelError α) (SignalMap α)}
    (turn : e.turn = .awaiting i) (task : e.tasks[i]? = some t) (phase : t.phase = .running)
    (stage : t.stage = .ofProgress p) :
    ∃ m t', e.Step m ({ e with
        turn := .learned i (Worker.answerOf (t.job.limit e.scenario) p) }.setTask i t') ∧
      m.ofCaller = true ∧ t'.stage = t.stage ∧ t'.job = t.job := by
  obtain ⟨job, ph, st, told⟩ := t
  cases phase
  cases stage
  cases p with
  | returned | failed | aborted => exact ⟨_, _, .hear turn task rfl, rfl, rfl, rfl⟩
  | blocked => exact ⟨_, _, .expire turn task, rfl, rfl, rfl⟩

/-- The caller of a job has been told an answer and not settled yet; nothing else has changed but
the worker. -/
structure Carried (e : Engine α σ) (job : Job α) (w : Worker α σ)
    (answer : Except (CallFailure α) (SignalMap α)) (e' : Engine α σ) : Prop where
  scenario : e'.scenario = e.scenario
  model : e'.model = e.model
  committed : e'.committed = e.committed
  begun : e'.begun = e.begun
  worker : e'.HasWorker w
  told : ∃ i t, e'.turn = .learned i answer ∧ e'.tasks[i]? = some t ∧ t.job = job

variable {scenario : Scenario α} {specs : List (KpiSpec α)} {unit : EmulationUnit α σ}

/-- A task inside the unit goes on until it ends or blocks. -/
theorem inside_carried {i : Nat} {t : Task α σ} {call : Call σ (ModelError α) (SignalMap α)}
    (turn : e.turn = .awaiting i) (lock : e.lock = some i) (task : e.tasks[i]? = some t)
    (phase : t.phase = .running) (inside : t.stage = .inside call) :
    ∃ ts e', (lts scenario specs unit).Run e ts e' ∧ Behind ts ∧
      Carried e t.job (.ofProgress (call e.unit))
        (Worker.answerOf (t.job.limit e.scenario) (call e.unit)) e' := by
  have worked : e.Step (.work i) (e.afterWork i t (call e.unit)) := .work_of task inside rfl
  have worker := hasWorker_afterWork lock task (call e.unit)
  have ended := set_self task { t with stage := .ofProgress (call e.unit) }
  obtain ⟨m, t', told, hm, stage, hj⟩ :=
    told_step (e := e.afterWork i t (call e.unit)) turn ended phase rfl
  refine ⟨_, _, (LTS.Run.nil.snoc worked).snoc told, ?_, rfl, rfl, rfl, rfl, ?_, i, t', rfl, ?_, hj⟩
  · simp [Behind, hm, Move.ofTask]
  · exact worker.setTask ended stage rfl rfl rfl
  · exact set_self ended t'

/-- A task that has been sent off gets the model if it is there, and goes into the unit. -/
theorem spawn_inside (lock : e.lock = none) (job : Job α) :
    ∃ ts, (lts scenario specs unit).Run (e.spawn job) ts
        (e.pending job .running (.inside (job.call e.scenario e.model)) (some e.tasks.length)) ∧
      Behind ts := by
  let n := e.tasks.length
  let call := job.call e.scenario e.model
  have locked : (e.spawn job).Step (.lock n) (e.pending job .queued .locked (some n)) := by
    rw [← pending_setTask e job .queued .queued .waiting .locked]
    exact .lock (pending_task e job .queued .waiting e.lock) rfl lock
  have inside : (e.pending job .queued .locked (some n)).Step (.look n)
      (e.pending job .running (.inside call) (some n)) := by
    rw [← pending_setTask e job .queued .running .locked (.inside call)]
    exact .run (pending_task e job .queued .locked _) rfl (fun h => nomatch h)
  exact ⟨_, (LTS.Run.nil.snoc locked).snoc inside, by simp [Behind, Move.ofTask]⟩

/-- The task gets the model if it is there; behind a runaway task its limit passes. -/
theorem carried {w : Worker α σ} (h : e.HasWorker w) (job : Job α) :
    ∃ ts e', (lts scenario specs unit).Run (e.spawn job) ts e' ∧ Behind ts ∧
      Carried e job (w.run (job.limit e.scenario) (job.call e.scenario e.model)).1
        (w.run (job.limit e.scenario) (job.call e.scenario e.model)).2 e' := by
  cases h with
  | idle lock =>
    obtain ⟨us, entered, behind⟩ := spawn_inside lock job
    obtain ⟨ts, e', run, behind', hc⟩ := inside_carried rfl rfl (pending_task e job .running
      (.inside (job.call e.scenario e.model)) (some e.tasks.length)) rfl rfl
    refine ⟨us ++ ts, e', entered.append run, ?_, hc.scenario, hc.model, hc.committed, hc.begun,
      hc.worker, hc.told⟩
    exact fun x hx => (List.mem_append.1 hx).elim (behind x) (behind' x)
  | busy lock task inside =>
    have worker : (e.spawn job).HasWorker _ := (HasWorker.busy lock task inside).congr rfl rfl
      fun j u hu =>
        ⟨u, (List.getElem?_append_left (List.getElem?_eq_some_iff.1 hu).1).trans hu, rfl⟩
    have last := pending_task e job .queued .waiting e.lock
    have expired := Step.expire (e := e.spawn job) rfl last
    refine ⟨_, _, LTS.Run.nil.snoc expired, ?_, rfl, rfl, rfl, rfl, ?_, e.tasks.length, _, rfl,
      set_self last _, rfl⟩
    · simp [Behind, Move.ofCaller]
    · refine worker.setTask last ?_ rfl rfl rfl
      rfl

/-! ## Calls on the session -/

/-- The session without its tasks; no call is behind the gate. -/
structure Represents (e : Engine α σ) (s : Session α σ) : Prop where
  scenario : e.scenario = s.scenario
  model : e.model = s.model
  committed : e.committed = s.committed
  begun : e.begun = s.begun
  worker : e.HasWorker s.worker
  turn : e.turn = .free

omit [Scalar α] in
/-- A refused call leaves the session as it was. -/
theorem Represents.refused (h : e.Represents s) : Represents { e with turn := .free } s :=
  ⟨h.scenario, h.model, h.committed, h.begun, h.worker.same rfl rfl rfl, rfl⟩

omit [Scalar α] in
theorem Represents.measure (h : e.Represents s)
    (f : Metrics.SessionMetrics α → Metrics.SessionMetrics α) : e.Represents (s.measure f) :=
  ⟨h.scenario, h.model, h.committed, h.begun, h.worker, h.turn⟩

omit [Scalar α] in
theorem Represents.count (h : e.Represents s) (result : Except (SessionError α) (AdvanceReport α)) :
    e.Represents (s.count result) := by
  cases result with
  | ok report => exact (h.measure _).measure _
  | error error => exact h.measure _

/-- A call that needs no task leaves the gate with its plan. -/
theorem Passage.planned {request : Request α} {reply : Reply α} (free : e.turn = .free)
    (plan : Step { e with turn := .entered request } .plan e')
    (hr : reply? { e with turn := .entered request } .plan = some reply) :
    Passage (lts scenario specs unit) e request
      [⟨{ e with turn := .entered request }, .plan, e'⟩] e' reply := by
  refine ⟨free, LTS.Run.nil.snoc plan, ?_, ?_⟩
  · intro x hx other
    cases List.mem_singleton.1 hx
    exact nofun
  · simp [replies, hr]

/-- A call whose job has been planned leaves the gate when it has entered what it was told. -/
theorem Passage.settled {request : Request α} {job : Job α} {i : Nat} {t : Task α σ}
    {answer : Told α} {us : List (Transition (Engine α σ) (Move α))} (free : e.turn = .free)
    (plan : Step { e with turn := .entered request } .plan
      (spawn { e with turn := .entered request } job))
    (run : (lts scenario specs unit).Run (spawn { e with turn := .entered request } job) us e')
    (behind : Behind us) (turn : e'.turn = .learned i answer) (task : e'.tasks[i]? = some t) :
    ∃ ts, Passage (lts scenario specs unit) e request ts (e'.conclude t.job answer)
      (e'.standing.conclude t.job answer).2 := by
  have hr : e'.reply? .settle = some (e'.standing.conclude t.job answer).2 := by
    simp only [reply?, turn, task, Option.map_some]
  refine ⟨_, free, ((LTS.Run.nil.snoc plan).append run).snoc (.settle turn task), ?_, ?_⟩
  · intro x hx other hx'
    simp only [List.nil_append, List.cons_append, List.mem_cons, List.mem_append,
      List.not_mem_nil, or_false] at hx
    rcases hx with rfl | hx | rfl
    · cases hx'
    · rcases behind x hx with hb | hb <;> rw [hx'] at hb <;> cases hb
    · cases hx'
  · rw [replies_snoc, hr]
    exact List.mem_append_right _ (List.mem_singleton_self _)

/-- A call whose job has been planned sends off its task and settles what it is told. -/
theorem Represents.settled (h : e.Represents s) {request : Request α} {job : Job α}
    {w : Worker α σ} {answer : Except (CallFailure α) (SignalMap α)}
    (plan : Step { e with turn := .entered request } .plan
      (spawn { e with turn := .entered request } job))
    (hw : s.worker.run (job.limit s.scenario) (job.call s.scenario s.model) = (w, answer)) :
    ∃ ts e', Carried e job w answer e' ∧
      Passage (lts scenario specs unit) e request ts (e'.conclude job answer)
        (s.standing.conclude job answer).2 := by
  let e₁ := { e with turn := .entered request }
  have worker : e₁.HasWorker s.worker := h.worker.same rfl rfl rfl
  obtain ⟨us, e', run, behind, hc⟩ := carried worker job
  have hw : s.worker.run (job.limit e.scenario) (job.call e.scenario e.model) = (w, answer) := by
    rw [h.scenario, h.model, hw]
  simp only [e₁, hw] at hc
  obtain ⟨i, t, turn, task, rfl⟩ := hc.told
  have standing : e'.standing = s.standing := by
    rw [Engine.standing, hc.committed, hc.begun]
    exact congr (congrArg Standing.mk h.committed) h.begun
  obtain ⟨ts, passage⟩ := Passage.settled h.turn plan run behind turn task
  rw [standing] at passage
  exact ⟨ts, e', ⟨hc.scenario, hc.model, hc.committed, hc.begun, hc.worker, hc.told⟩, passage⟩

theorem represents_advance (h : e.Represents s) (latency : Nat) (inputs : SignalMap α) :
    ∃ ts e', Passage (lts scenario specs unit) e (.advance latency inputs) ts e'
        (.advance (s.advance latency inputs).2) ∧
      e'.Represents (s.advance latency inputs).1 := by
  have hp : e.committed.plan e.model.registry inputs =
      s.committed.plan s.model.registry inputs := by
    rw [h.committed, h.model]
  let e₁ := { e with turn := .entered (.advance latency inputs) }
  cases plan : s.committed.plan s.model.registry inputs with
  | error error =>
    have refused : e₁.Step .plan { e₁ with turn := .free } := .refuseAdvance rfl (hp.trans plan)
    have hr : e₁.reply? .plan = some (.advance (.error error)) := by
      simp only [reply?, e₁, intent_advance_error (hp.trans plan)]
    unfold Session.advance
    rw [Session.advance_rejected plan]
    exact ⟨_, _, .planned h.turn refused hr, h.refused.count (.error error)⟩
  | ok p =>
    have planned : e₁.Step .plan (e₁.spawn (.advance p latency)) :=
      .planAdvance rfl (hp.trans plan)
    cases hw : s.worker.run s.scenario.stepLimit (s.model.exchange p.inputs p.duration) with
    | mk w answer =>
      obtain ⟨ts, e', hc, passage⟩ := h.settled planned hw
      have hcommitted : (e'.committed.settleAdvance p latency answer).1 =
          (s.committed.settleAdvance p latency answer).1 := by rw [hc.committed, h.committed]
      unfold Session.advance Session.advanceQuietly Session.exchange
      simp only [plan, hw]
      refine ⟨ts, e'.conclude (.advance p latency) answer, ?_, Represents.count ?_ _⟩
      · cases answer <;> exact passage
      · cases answer <;> exact ⟨hc.scenario.trans h.scenario, hc.model.trans h.model, hcommitted,
          hc.begun.trans h.begun, hc.worker.same rfl rfl rfl, rfl⟩

theorem represents_reset (h : e.Represents s) (step : Option α) :
    ∃ ts e', Passage (lts scenario specs unit) e (.reset step) ts e' (.reset (s.reset step).2) ∧
      e'.Represents (s.reset step).1 := by
  let e₁ := { e with turn := .entered (.reset step) }
  -- what is counted of a reset does not matter
  suffices hq : ∃ ts e', Passage (lts scenario specs unit) e (.reset step) ts e'
      (.reset (s.resetQuietly step).2) ∧ e'.Represents (s.resetQuietly step).1 by
    obtain ⟨ts, e', passage, hr⟩ := hq
    exact ⟨ts, e', passage, (hr.measure _).measure _⟩
  cases check : Committed.checkStep step with
  | error error =>
    have refused : e₁.Step .plan { e₁ with turn := .free } := .refuseReset rfl check
    have hr : e₁.reply? .plan = some (.reset (.error error)) := by
      simp only [reply?, e₁, intent_reset_error check]
    rw [Session.reset_rejected check]
    exact ⟨_, _, .planned h.turn refused hr, h.refused⟩
  | ok u =>
    have planned : e₁.Step .plan (e₁.spawn (.reset step)) := .planReset rfl check
    cases hw : s.worker.run s.scenario.initLimit
        (s.model.warmUp s.scenario.start s.scenario.warmupEnd) with
    | mk w answer =>
      obtain ⟨ts, e', hc, passage⟩ := h.settled planned hw
      have hsettle : e'.committed.settleReset step ⟨e'.begun + 1⟩ answer =
          s.committed.settleReset step ⟨s.begun + 1⟩ answer := by
        rw [hc.committed, h.committed, hc.begun, h.begun]
      unfold Session.resetQuietly
      simp only [check, hw]
      refine ⟨ts, _, passage, hc.scenario.trans h.scenario, hc.model.trans h.model,
        congrArg Prod.fst hsettle, ?_, hc.worker.same rfl rfl rfl, rfl⟩
      exact congr (congrArg begunAfter (hc.begun.trans h.begun)) (congrArg Prod.snd hsettle)

theorem represents_setStep (h : e.Represents s) (step : α) :
    ∃ ts e', Passage (lts scenario specs unit) e (.setStep step) ts e'
        (.setStep (s.setStep step).2) ∧ e'.Represents (s.setStep step).1 := by
  let e₁ := { e with turn := .entered (.setStep step) }
  have hset : e.committed.setStep step = s.committed.setStep step := by rw [h.committed]
  have hr : e₁.reply? .plan = some (e.standing.set step).2 := rfl
  unfold Session.setStep
  cases set : s.committed.setStep step with
  | error error =>
    have refused : e₁.Step .plan { e₁ with turn := .free } := .refuseStep rfl (hset.trans set)
    simp only [Standing.set, standing, hset, set] at hr
    exact ⟨_, _, .planned h.turn refused hr, h.refused⟩
  | ok committed =>
    have done : e₁.Step .plan { e₁ with committed, turn := .free } := .setStep rfl (hset.trans set)
    simp only [Standing.set, standing, hset, set] at hr
    exact ⟨_, _, .planned h.turn done hr, h.scenario, h.model, rfl, h.begun,
      h.worker.same rfl rfl rfl, rfl⟩

/-- Every call of a session is one of the session with its tasks, with the same answer. -/
theorem represents_call {event : SessionEvent α} {request : Request α} {reply : Reply α}
    (h : e.Represents s) (hs : s.Step event s') (hc : event.call? = some (request, reply)) :
    ∃ ts e', Passage (lts scenario specs unit) e request ts e' reply ∧ e'.Represents s' := by
  cases event with
  | advance latency inputs answer =>
    cases hc
    have hs : s.advance latency inputs = (s', answer) := hs
    obtain ⟨ts, e', passage, hrep⟩ := represents_advance h latency inputs
    rw [hs] at passage hrep
    exact ⟨ts, e', passage, hrep⟩
  | reset step answer =>
    cases hc
    have hs : s.reset step = (s', answer) := hs
    obtain ⟨ts, e', passage, hrep⟩ := represents_reset h step
    rw [hs] at passage hrep
    exact ⟨ts, e', passage, hrep⟩
  | setStep step answer =>
    cases hc
    have hs : s.setStep step = (s', answer) := hs
    obtain ⟨ts, e', passage, hrep⟩ := represents_setStep h step
    rw [hs] at passage hrep
    exact ⟨ts, e', passage, hrep⟩
  | release => cases hc

/-- A runaway call goes on as the task inside the unit. -/
theorem represents_release (h : e.Represents s) :
    ∃ ts e', (lts scenario specs unit).Run e ts e' ∧ e'.Represents (s.release id) := by
  obtain ⟨hscenario, hmodel, hcommitted, hbegun, hworker, hturn⟩ := h
  cases hw : s.worker with
  | idle state =>
    rw [hw] at hworker
    refine ⟨[], e, .nil, hscenario, hmodel, hcommitted, hbegun, ?_, hturn⟩
    unfold Session.release
    rw [hw]
    exact hworker
  | busy state resume =>
    rw [hw] at hworker
    cases hworker with
    | @busy i t rest lock task inside =>
      have worked : e.Step (.work i) (e.afterWork i t (rest e.unit)) := .work_of task inside rfl
      refine ⟨_, _, LTS.Run.nil.snoc worked, hscenario, hmodel, hcommitted, hbegun, ?_, hturn⟩
      unfold Session.release
      rw [hw]
      change HasWorker _ (.ofProgress (rest e.unit).discard)
      rw [Worker.ofProgress_discard]
      exact hasWorker_afterWork lock task _

/-- Every step of a session is a run of the session with its tasks. -/
theorem represents_step {event : SessionEvent α} (h : e.Represents s) (hs : s.Step event s') :
    ∃ ts e', (lts scenario specs unit).Run e ts e' ∧ e'.Represents s' := by
  cases hc : event.call? with
  | none =>
    cases event with
    | release =>
      have hs : s.release id = s' := hs
      exact hs ▸ represents_release h
    | advance | reset | setStep => cases hc
  | some call =>
    obtain ⟨ts, e', passage, hrep⟩ := represents_call h hs hc
    exact ⟨_, e', passage.whole, hrep⟩

/-- Every session that can be reached is one with tasks that can be reached, without the tasks. -/
theorem represents_reachable (h : (Session.lts scenario specs unit).Reachable s) :
    ∃ e, (lts scenario specs unit).Reachable e ∧ e.Represents s := by
  obtain ⟨s₀, events, h₀, hr⟩ := h
  refine hr.invariant (P := fun _ s => ∃ e, (lts scenario specs unit).Reachable e ∧
    e.Represents s) ?_ ?_
  · refine ⟨_, .of_init ⟨s₀, h₀, rfl⟩, rfl, rfl, rfl, rfl, ?_, rfl⟩
    obtain ⟨-, -, -, ⟨state, hw⟩, -⟩ := Session.Opened.parts h₀
    have worker : (ofSession s₀).HasWorker (.idle s₀.worker.state) := .idle rfl
    rw [hw] at worker ⊢
    exact worker
  · rintro events s event s' ⟨e, he, hrep⟩ hs
    obtain ⟨ts, e', run, hrep'⟩ := represents_step hrep hs
    exact ⟨e', he.of_run run, hrep'⟩

end Engine

/-- Nothing has run away with the unit of a ready session: the task inside would not be done. -/
theorem Session.idle_of_ready [Scalar α] {scenario : Scenario α} {specs : List (KpiSpec α)}
    {unit : EmulationUnit α σ} {s : Session α σ}
    (h : (Session.lts scenario specs unit).Reachable s) (ready : s.committed.lifecycle = .ready) :
    ∃ state, s.worker = .idle state := by
  obtain ⟨e, he, hrep⟩ := Engine.represents_reachable h
  have sound := (Engine.sound_inductive scenario specs unit).reachable he
  have hl : e.committed.lifecycle = .ready := by rw [hrep.committed, ready]
  have worker := hrep.worker
  cases hw : s.worker with
  | idle state => exact ⟨state, rfl⟩
  | busy state resume =>
    rw [hw] at worker
    cases worker with
    | busy lock task inside =>
      have done := sound.done_of_ready hl (by rw [hrep.turn]; trivial) _ _ task
      exact absurd ⟨_, inside⟩ done.outside

end BuildingEmulation
