import BuildingEmulation.Proofs.Engine.Sequential
import BuildingEmulation.Proofs.Engine.Stray

/-!
# Failing calls are atomic

A call that answers with an error has happened as a whole or not at all, in whatever order its own
task and those of earlier calls move on, and whenever its limit passes. `LeavesBehind` says for
every error what the session is afterwards.

* A refusal comes before a task is sent off, so the unit is not called.
* An advance that failed leaves all that was committed. The session stays ready unless its caller
  left while the phase of the call was `running`: then the unit may still move. A call whose limit
  passes while it is queued finds itself abandoned when it gets the model, and the session stays
  ready.
* A reset that failed leaves a session as it was opened, with the step that was in force.

Results:
* `Standing.call_failed`: in which ways a call as a whole comes to answer with an error.
* `start_inductive`: the clock of a session starts where its scenario does.
* `failures_atomic`: what failing calls leave behind, for every call of every run.
* `Session.failures_leaveBehind`: so it is for sessions that run their calls to the end at once.
-/
namespace BuildingEmulation

variable {α σ : Type} [Scalar α]

/-! ## How a call fails -/

omit [Scalar α] in
/-- The error that a call answers with. -/
def Reply.error? : Reply α → Option (SessionError α)
  | .reset (.error e) | .advance (.error e) | .setStep (.error e) => some e
  | _ => none

omit [Scalar α] in
theorem SessionEvent.reply_of_error {event : SessionEvent α} {e : SessionError α}
    (h : event.error? = some e) :
    ∃ request reply, event.call? = some (request, reply) ∧ reply.error? = some e := by
  cases event with
  | advance latency inputs answer | reset step answer | setStep step answer =>
    cases answer with
    | error e' => exact ⟨_, _, rfl, h⟩
    | ok report => cases h
  | release => cases h

namespace Standing

/-- How a call that was told something of its task, or nothing, comes to answer with an error. -/
inductive Failed (s : Standing α) : Option (Told α) → Standing α → SessionError α → Prop
  /-- Refused before it sends off a task. -/
  | refused {e} (reason : e = .notReady ∨ e = .scenarioEnded ∨
      (∃ name fault, e = .invalidInput name fault) ∨ ∃ fault, e = .invalidStep fault) :
      Failed s none s e
  /-- The exchange gives no outputs. -/
  | advance {failure} (ready : s.committed.lifecycle = .ready) :
      Failed s (some (.error failure)) { s with committed := s.committed.fail failure.inFlight }
        (.modelStep failure.error)
  /-- The log does not take the row. -/
  | commit {outputs fault} (ready : s.committed.lifecycle = .ready) :
      Failed s (some (.ok outputs)) s (.commit fault)
  /-- The warm-up gives no outputs. -/
  | reset {failure} :
      Failed s (some (.error failure)) ⟨s.committed.abandon, s.begun⟩ (.reset failure.error)

variable {r : Registry α} {s s' : Standing α} {request : Request α} {told : Option (Told α)}
  {reply : Reply α} {e : SessionError α}

theorem advance_failed {latency : Nat} {inputs : SignalMap α}
    (h : s.call r (.advance latency inputs) told = some (s', reply)) (he : reply.error? = some e) :
    s.Failed told s' e := by
  rcases s.committed.plan_cases r inputs with ⟨ready, -, plan⟩ | ⟨error, plan, reason⟩
  · have intent : (Request.advance latency inputs).intent r s.committed = _ := intent_advance_ok plan
    cases told with
    | none => simp only [call, intent] at h; cases h
    | some told =>
      rw [call_send intent] at h
      cases told with
      | error failure => cases h; cases he; exact .advance ready
      | ok outputs =>
        simp only [conclude, Committed.settleAdvance] at h
        rcases s.committed.commit_cases inputs outputs latency with ⟨fault, -, hc⟩ | ⟨-, hc⟩
        · rw [hc] at h; cases h; cases he; exact .commit ready
        · rw [hc] at h; cases h; cases he
  · have intent : (Request.advance latency inputs).intent r s.committed = _ :=
      intent_advance_error plan
    cases told with
    | some told => simp only [call, intent] at h; cases h
    | none =>
      rw [call_refuse intent] at h
      cases h
      cases he
      rcases reason with reason | reason | reason
      exacts [.refused (.inl reason), .refused (.inr (.inl reason)),
        .refused (.inr (.inr (.inl reason)))]

theorem reset_failed {step : Option α} (h : s.call r (.reset step) told = some (s', reply))
    (he : reply.error? = some e) : s.Failed told s' e := by
  cases check : Committed.checkStep step with
  | error error =>
    obtain ⟨fault, rfl⟩ := Committed.checkStep_error check
    have intent : (Request.reset step).intent r s.committed = _ := intent_reset_error check
    cases told with
    | some told => simp only [call, intent] at h; cases h
    | none =>
      rw [call_refuse intent] at h
      cases h
      cases he
      exact .refused (.inr (.inr (.inr ⟨fault, rfl⟩)))
  | ok u =>
    have intent : (Request.reset step).intent r s.committed = _ := intent_reset_ok check
    cases told with
    | none => simp only [call, intent] at h; cases h
    | some told =>
      rw [call_send intent] at h
      cases told with
      | error failure => cases h; cases he; exact .reset
      | ok outputs =>
        simp only [conclude, Committed.settleReset_ok check] at h
        cases h
        cases he

theorem setStep_failed {step : α} (h : s.call r (.setStep step) told = some (s', reply))
    (he : reply.error? = some e) : s.Failed told s' e := by
  cases told with
  | some told => cases h
  | none =>
    rw [call_set, Standing.set] at h
    rcases s.committed.setStep_cases step with ⟨-, hc⟩ | ⟨fault, hc⟩
    · rw [hc] at h; cases h; cases he
    · rw [hc] at h; cases h; cases he; exact .refused (.inr (.inr (.inr ⟨fault, rfl⟩)))

theorem call_failed (h : s.call r request told = some (s', reply)) (he : reply.error? = some e) :
    s.Failed told s' e := by
  cases request with
  | advance => exact advance_failed h he
  | reset => exact reset_failed h he
  | setStep => exact setStep_failed h he

end Standing

/-! ## What is left -/

/-- Nothing is left of the runs before, and the step is the one that was in force. -/
structure Session.Cleared (scenario : Scenario α) (s s' : Session α σ) : Prop where
  lifecycle : s'.committed.lifecycle = .uninitialized
  id : s'.committed.id = none
  results : s'.committed.results.toList = []
  measurements : s'.committed.measurements = .empty
  kpis : ∀ k ∈ s'.kpiRecords, k.value = 0.0
  computed : s'.committed.kpis.computed = 0.0
  simulated : s'.committed.kpis.simulated = 0.0
  time : s'.committed.clock.time = scenario.start
  initialized : s'.committed.clock.initialized = false
  step : s'.committed.clock.step = s.committed.clock.step

theorem Session.cleared_abandon {scenario : Scenario α} {s s' : Session α σ}
    (hs : s.committed.clock.start = scenario.start) (h : s'.committed = s.committed.abandon) :
    s.Cleared scenario s' := by
  have hk : ∀ k ∈ s'.kpiRecords, k.value = 0.0 := by
    intro k hk
    simp only [kpiRecords, h, Committed.abandon, Committed.clear, KpiCalculator.records,
      KpiCalculator.reset, List.map_map, List.mem_map, Function.comp_apply] at hk
    obtain ⟨k', -, rfl⟩ := hk
    rfl
  constructor
  case kpis => exact hk
  case time => rw [h]; exact hs
  all_goals rw [h]; rfl

namespace Engine

variable {scenario : Scenario α} {specs : List (KpiSpec α)} {unit : EmulationUnit α σ}
  {e e' : Engine α σ} {request : Request α} {reply : Reply α} {error : SessionError α}
  {ts : List (Transition (Engine α σ) (Move α))}

/-- The call got through to nothing. -/
structure Refused (e : Engine α σ) (ts : List (Transition (Engine α σ) (Move α)))
    (e' : Engine α σ) : Prop where
  unsent : e'.tasks.length = e.tasks.length
  /-- If the unit went on, it did so with tasks of earlier calls. -/
  earlier : ∀ i, Worked ts i → i < e.tasks.length
  /-- In a ready session there are none that could. -/
  unit : e.committed.lifecycle = .ready → e'.unit = e.unit
  committed : e'.committed = e.committed

/-- What a call that answers with an error makes of the session as its readers see it. -/
def LeavesBehind (scenario : Scenario α) (e : Engine α σ)
    (ts : List (Transition (Engine α σ) (Move α))) (e' : Engine α σ) : SessionError α → Prop
  | .notReady | .scenarioEnded | .invalidInput _ _ | .invalidStep _ => Refused e ts e'
  | .modelStep _ | .commit _ =>
    e.view.KeepsRecord e'.view ∧ e.committed.lifecycle = .ready ∧
      (e'.committed.lifecycle = .needsReset ↔ LeftInside ts) ∧
      (e'.committed.lifecycle = .ready ↔ ¬ LeftInside ts)
  | .reset _ => e.view.Cleared scenario e'.view
  | .unknownSignal _ => False

/-! ## The clock starts with the scenario -/

theorem settleAdvance_start (c : Committed α) (p : AdvancePlan α) (latency : Nat) (told : Told α) :
    (c.settleAdvance p latency told).1.clock.start = c.clock.start := by
  cases told with
  | error failure => exact congrArg Clock.start (c.fail_fields failure.inFlight).1
  | ok outputs =>
    simp only [Committed.settleAdvance, Committed.commit]
    split
    · rfl
    · split <;> rfl

theorem settleReset_start (c : Committed α) (step : Option α) (id : SessionId) (told : Told α) :
    (c.settleReset step id told).1.clock.start = c.clock.start := by
  cases told with
  | error failure => rfl
  | ok outputs =>
    simp only [Committed.settleReset]
    cases hb : c.begin step outputs id with
    | error e => rfl
    | ok begun =>
      obtain ⟨clock, hclock, hb⟩ := bind_eq_ok hb
      cases hb
      have hclock : c.clock.reset step = .ok clock := mapError_eq_ok hclock
      cases step with
      | none => cases hclock; rfl
      | some step =>
        obtain ⟨clock', hset, hclock⟩ := bind_eq_ok hclock
        obtain ⟨-, -, hset⟩ := bind_eq_ok hset
        cases hset
        cases hclock
        rfl

theorem start_inductive (scenario : Scenario α) (specs : List (KpiSpec α))
    (unit : EmulationUnit α σ) :
    (lts scenario specs unit).Inductive fun e => e.committed.clock.start = scenario.start where
  init := by
    rintro e ⟨s, opened, rfl⟩
    obtain ⟨-, -, -, -, kpis, -, hc⟩ := opened.parts
    exact congrArg (·.clock.start) hc
  step := by
    intro e m e' h hs
    cases hs with
    | @setStep step committed turn set =>
      rcases e.committed.setStep_cases step with ⟨-, hc⟩ | ⟨fault, hc⟩
      · rw [hc] at set; cases set; exact h
      · rw [hc] at set; cases set
    | @settle i t told =>
      cases hj : t.job with
      | advance p latency => exact (settleAdvance_start ..).trans h
      | reset step => exact (settleReset_start ..).trans h
    | _ => exact h

/-! ## Every failing call -/

/-- Tasks stay. -/
theorem Step.length_le {m : Move α} (hs : e.Step m e') : e.tasks.length ≤ e'.tasks.length := by
  cases hs with
  | planAdvance | planReset => exact (List.length_append ..).symm ▸ Nat.le_add_right ..
  | @settle i t told => cases t.job <;> exact Nat.le_refl _
  | lock | run | skip | work | hear | expire => exact Nat.le_of_eq List.length_set.symm
  | _ => exact Nat.le_refl _

/-- The unit goes on only with tasks that have been sent off. -/
theorem worked_lt (hr : (lts scenario specs unit).Run e ts e') {i : Nat} (hw : Worked ts i) :
    i < e'.tasks.length := by
  refine hr.invariant (P := fun ts e' => ∀ i, Worked ts i → i < e'.tasks.length) ?_ ?_ i hw
  · rintro i ⟨x, hx, -⟩; cases hx
  · intro ts e m e' ih hs i hi
    refine Nat.lt_of_lt_of_le ?_ (Step.length_le hs)
    rcases worked_snoc hi with hi | rfl
    · exact ih i hi
    · obtain ⟨t, task, -⟩ := Step.inside hs
      exact (List.getElem?_eq_some_iff.1 task).1

/-- A run on which the unit goes on with no task leaves the unit alone. -/
theorem unit_eq_of_run (hr : (lts scenario specs unit).Run e ts e') (idle : ∀ i, ¬ Worked ts i) :
    e'.unit = e.unit := by
  refine hr.invariant (P := fun ts e' => (∀ i, ¬ Worked ts i) → e'.unit = e.unit) (fun _ => rfl)
    ?_ idle
  intro ts e' m e'' ih hs idle
  have last : ∀ i, m ≠ .work i := fun i hm =>
    idle i ⟨_, List.mem_append_right _ (List.mem_singleton_self _), hm⟩
  refine (Step.unit_eq hs last).trans (ih fun i ⟨x, hx, hm⟩ => ?_)
  exact idle i ⟨x, List.mem_append_left _ hx, hm⟩

/-- No task of earlier calls goes on in a ready session. -/
theorem Passage.unit_eq (h : Passage (lts scenario specs unit) e request ts e' reply)
    (sound : e.Sound) (ready : e.committed.lifecycle = .ready)
    (earlier : ∀ i, Worked ts i → i < e.tasks.length) : e'.unit = e.unit := by
  have idle : ∀ i, ¬ Worked ts i := by
    intro i hw
    have hi := earlier i hw
    have task : e.tasks[i]? = some e.tasks[i] := List.getElem?_eq_getElem hi
    have done := sound.done_of_ready ready (by rw [h.free]; trivial) i _ task
    obtain ⟨-, never, -⟩ := done_run sound ⟨_, task, done⟩ h.whole
    obtain ⟨x, hx, hm⟩ := hw
    exact never x (List.mem_cons_of_mem _ hx) hm
  have same : e'.unit = { e with turn := .entered request }.unit := unit_eq_of_run h.run idle
  exact same

theorem Passage.leavesBehind (h : Passage (lts scenario specs unit) e request ts e' reply)
    (sound : e.Sound) (start : e.committed.clock.start = scenario.start)
    (he : reply.error? = some error) : LeavesBehind scenario e ts e' error := by
  obtain ⟨told, call, unsent, left⟩ := h.served
  have failed := Standing.call_failed call he
  generalize hs : e'.standing = s at failed
  have committed : e'.committed = s.committed := congrArg Standing.committed hs
  cases failed with
  | refused reason =>
    have length : e'.tasks.length = e.tasks.length := unsent rfl
    have earlier : ∀ i, Worked ts i → i < e.tasks.length := fun i hi => length ▸ worked_lt h.run hi
    have refused : Refused e ts e' :=
      ⟨length, earlier, fun ready => h.unit_eq sound ready earlier, committed⟩
    rcases reason with rfl | rfl | ⟨name, fault, rfl⟩ | ⟨fault, rfl⟩ <;> exact refused
  | @advance failure ready =>
    refine ⟨Session.keepsRecord_fail failure.inFlight committed, ready, ?_⟩
    have hl : LeftInside ts ↔ failure.inFlight = true := by simp [left, InFlight]
    rw [hl, committed]
    have ready : e.standing.committed.lifecycle = .ready := ready
    cases failure.inFlight <;> simp [Committed.fail, ready]
  | commit ready =>
    have hl : ¬ LeftInside ts := by simp [left, InFlight]
    have ready' : e'.committed.lifecycle = .ready := by rw [committed]; exact ready
    refine ⟨Session.keepsRecord_fail false committed, ready, ?_⟩
    simp [ready', hl]
  | reset => exact Session.cleared_abandon (s := e.view) start committed

/-- A call that answers with an error leaves a session behind that no part of the call has got
through to, in every state that can be reached and for every way in which it is carried out: a
refused call changes nothing, a failed advance at most the lifecycle, and a failed reset clears
everything. -/
theorem failures_atomic (hr : (lts scenario specs unit).Reachable e)
    (passage : Passage (lts scenario specs unit) e request ts e' reply)
    (failed : reply.error? = some error) : LeavesBehind scenario e ts e' error := by
  have sound := (sound_inductive scenario specs unit).reachable hr
  have start := (start_inductive scenario specs unit).reachable hr
  exact passage.leavesBehind sound start failed

/-! ## Both ends of a step that takes too long -/

section

variable {latency : Nat} {inputs : SignalMap α} {p : AdvancePlan α}

/-- The limit of an advance may pass before its task gets the model. The session is then as it
was. -/
theorem passage_queued (free : e.turn = .free)
    (plan : e.committed.plan e.model.registry inputs = .ok p) :
    ∃ ts e', Passage (lts scenario specs unit) e (.advance latency inputs) ts e'
        (.advance (.error (.modelStep (.timeout e.scenario.stepLimit)))) ∧
      e'.committed = e.committed := by
  let e₁ := { e with turn := .entered (.advance latency inputs) }
  have planned : e₁.Step .plan (e₁.spawn (.advance p latency)) := .planAdvance rfl plan
  have last := pending_task e₁ (.advance p latency) .queued .waiting e.lock
  have expired := Step.expire (e := e₁.spawn (.advance p latency)) rfl last
  have run : (lts scenario specs unit).Run (e₁.spawn (.advance p latency)) _ _ :=
    LTS.Run.nil.snoc expired
  obtain ⟨ts, passage⟩ := Passage.settled free planned run (by simp [Behind, Move.ofCaller]) rfl
    (set_self last _)
  exact ⟨ts, _, passage, rfl⟩

/-- Or it passes once the task is inside the unit, and the session needs a reset. -/
theorem passage_running (free : e.turn = .free) (lock : e.lock = none)
    (plan : e.committed.plan e.model.registry inputs = .ok p) :
    ∃ ts e', Passage (lts scenario specs unit) e (.advance latency inputs) ts e'
        (.advance (.error (.modelStep (.timeout e.scenario.stepLimit)))) ∧
      e'.committed = { e.committed with lifecycle := .needsReset } := by
  let e₁ := { e with turn := .entered (.advance latency inputs) }
  have planned : e₁.Step .plan (e₁.spawn (.advance p latency)) := .planAdvance rfl plan
  have lock₁ : e₁.lock = none := lock
  obtain ⟨us, inside, behind⟩ := spawn_inside lock₁ (.advance p latency)
  have last := pending_task e₁ (.advance p latency) .running
    (.inside ((Job.advance p latency).call e.scenario e.model)) (some e.tasks.length)
  have run : (lts scenario specs unit).Run (e₁.spawn (.advance p latency)) _ _ :=
    inside.snoc (.expire rfl last)
  obtain ⟨ts, passage⟩ := Passage.settled free planned run
    (fun x hx => (List.mem_append.1 hx).elim (behind x) fun hx => by
      rw [List.mem_singleton.1 hx]; exact .inr rfl) rfl (set_self last _)
  exact ⟨ts, _, passage, rfl⟩

end

/-- A step of a tank that has been reset takes too long. If its limit passes while its task waits
for the model the session is still ready; if the task is inside the unit by then, the session needs
a reset. -/
theorem failures_atomic_tank :
    ∃ (e e' e'' : Engine Rat (ScriptedState Rat))
      (ts ts' : List (Transition (Engine Rat (ScriptedState Rat)) (Move Rat))),
      let M := lts Sample.scenario [Sample.fill] (scriptedUnit Sample.metadata)
      let slow : SessionError Rat := .modelStep (.timeout ⟨5⟩)
      M.Reachable e ∧
      (Passage M e (.advance 0 .empty) ts e' (.advance (.error slow)) ∧
        LeavesBehind Sample.scenario e ts e' slow ∧ e'.committed.lifecycle = .ready) ∧
      (Passage M e (.advance 0 .empty) ts' e'' (.advance (.error slow)) ∧
        LeavesBehind Sample.scenario e ts' e'' slow ∧ e''.committed.lifecycle = .needsReset) := by
  let s := ((Sample.session (scriptedUnit Sample.metadata) (Sample.state {})).reset none).1
  have hr : (Session.lts Sample.scenario [Sample.fill] (scriptedUnit Sample.metadata)).Reachable s :=
    Session.reachable_reset (.of_init (Sample.opened rfl _)) none
  have ready : s.committed.lifecycle = .ready := by decide +kernel
  have plan : s.committed.plan s.model.registry .empty = .ok (s.committed.planned .empty) :=
    Committed.plan_ready ready rfl
  obtain ⟨e, he, hrep⟩ := represents_reachable hr
  have free : e.lock = none := by
    have worker := hrep.worker
    obtain ⟨state, hw⟩ := Session.idle_of_ready hr ready
    rw [hw] at worker
    cases worker with
    | idle lock => exact lock
  rw [← hrep.committed] at plan ready
  have limit : e.scenario.stepLimit = ⟨5⟩ := by rw [hrep.scenario]; rfl
  have plan : e.committed.plan e.model.registry .empty = .ok (e.committed.planned .empty) := by
    rw [hrep.model]; exact plan
  obtain ⟨ts, e', queued, same⟩ := passage_queued hrep.turn plan
  obtain ⟨ts', e'', running, out⟩ := passage_running hrep.turn free plan
  rw [limit] at queued running
  refine ⟨e, e', e'', ts, ts', he, ⟨queued, failures_atomic he queued rfl, ?_⟩,
    running, failures_atomic he running rfl, ?_⟩
  · rw [same]; exact ready
  · rw [out]

end Engine

/-- In a session that runs its calls to the end at once, a failing call is carried out in one of
these ways. -/
theorem Session.failures_leaveBehind {scenario : Scenario α} {specs : List (KpiSpec α)}
    {unit : EmulationUnit α σ} {s s' : Session α σ} {event : SessionEvent α}
    {error : SessionError α} (hr : (lts scenario specs unit).Reachable s) (hs : s.Step event s')
    (failed : event.error? = some error) :
    ∃ request reply, event.call? = some (request, reply) ∧
      ∃ e ts e', e.Represents s ∧ e'.Represents s' ∧
        Engine.Passage (Engine.lts scenario specs unit) e request ts e' reply ∧
        Engine.LeavesBehind scenario e ts e' error := by
  obtain ⟨request, reply, call, failed⟩ := SessionEvent.reply_of_error failed
  obtain ⟨e, he, hrep⟩ := Engine.represents_reachable hr
  obtain ⟨ts, e', passage, hrep'⟩ := Engine.represents_call hrep hs call
  have sound := (Engine.sound_inductive scenario specs unit).reachable he
  have start := (Engine.start_inductive scenario specs unit).reachable he
  exact ⟨request, reply, call, e, ts, e', hrep, hrep', passage,
    passage.leavesBehind sound start failed⟩

end BuildingEmulation
