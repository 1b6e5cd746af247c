import BuildingEmulation.Proofs.Engine.Order

/-!
# One call from gate to gate

A call passes the gate, looks at the committed state, waits for its task if it has sent one off, and
enters what it was told. In the meantime the tasks of earlier calls move on, and its own goes on
when the call has left. `Underway` says where the call stands at any point of a run on which nobody
passes the gate after it.

Results:
* `Step.intends`: a call plans what its request intends.
* `Step.learns`: a caller is told that its call is in flight exactly if the call was running when
  the caller stopped waiting for it, or heard that its worker was lost.
* `underway_step`, `underway_run`: every step of such a run takes the call on.
-/
namespace BuildingEmulation.Engine

variable {α σ : Type}

/-- The answer leaves it open what becomes of the call inside the unit. -/
def InFlight (told : Told α) : Prop :=
  ∃ failure, told = .error failure ∧ failure.inFlight = true

/-- A call is left while its phase is `running`: its limit passes, or its worker was lost. -/
def LeavesInside (x : Transition (Engine α σ) (Move α)) : Prop :=
  ∃ i t, x.source.turn = .awaiting i ∧ x.source.tasks[i]? = some t ∧ t.phase = .running ∧
    (x.label = .expire ∨ x.label = .hear ∧ t.stage = .ended .aborted)

/-- A call was left while its phase was `running`. -/
def LeftInside (ts : List (Transition (Engine α σ) (Move α))) : Prop := ∃ x ∈ ts, LeavesInside x

variable [Scalar α]

/-- What the call behind the gate is answered by a move with which it leaves the gate. -/
def reply? (e : Engine α σ) (m : Move α) : Option (Reply α) :=
  match m, e.turn with
  | .plan, .entered request =>
    match request.intent e.model.registry e.committed with
    | .refuse reply => some reply
    | .set step => some (e.standing.set step).2
    | .send _ => none
  | .settle, .learned i told => e.tasks[i]?.map fun t => (e.standing.conclude t.job told).2
  | _, _ => none

/-- The answers on the way, in order. -/
def replies (ts : List (Transition (Engine α σ) (Move α))) : List (Reply α) :=
  ts.filterMap fun x => x.source.reply? x.label

/-- A call passes the gate and is answered, and nobody else passes the gate on the way. -/
structure Passage (M : LTS (Engine α σ) (Move α)) (e : Engine α σ) (request : Request α)
    (ts : List (Transition (Engine α σ) (Move α))) (e' : Engine α σ) (reply : Reply α) : Prop where
  free : e.turn = .free
  run : M.Run { e with turn := .entered request } ts e'
  alone : ∀ x ∈ ts, ∀ other, x.label ≠ .enter other
  answered : reply ∈ replies ts

section

variable (ts : List (Transition (Engine α σ) (Move α))) (x : Transition (Engine α σ) (Move α))

omit [Scalar α] in
theorem leftInside_snoc : LeftInside (ts ++ [x]) ↔ LeftInside ts ∨ LeavesInside x := by
  simp [LeftInside, or_and_right, exists_or]

theorem replies_snoc : replies (ts ++ [x]) = replies ts ++ (x.source.reply? x.label).toList := by
  rw [replies, List.filterMap_append]
  cases h : x.source.reply? x.label <;> simp [replies, h]

end

/-! ## What a step does to the call behind the gate -/

variable {e e' e'' : Engine α σ} {m : Move α} {request : Request α}
  {ts : List (Transition (Engine α σ) (Move α))}

theorem Step.model_eq (hs : e.Step m e') : e'.model = e.model := by
  cases hs with
  | @settle i t answer => cases t.job <;> rfl
  | _ => rfl

/-- Only a new step is set without further ado. -/
theorem intent_set {r : Registry α} {c : Committed α} {step : α}
    (h : request.intent r c = .set step) : request = .setStep step := by
  cases request with
  | setStep => cases h; rfl
  | reset | advance =>
    simp only [Request.intent] at h
    split at h <;> cases h

/-- What planning a call comes to: it is refused, its task is sent off, or its step is set. -/
inductive Intended (e : Engine α σ) (request : Request α) : Engine α σ → Prop
  | refused {reply} (intent : request.intent e.model.registry e.committed = .refuse reply) :
      Intended e request { e with turn := .free }
  | sent {job} (intent : request.intent e.model.registry e.committed = .send job) :
      Intended e request (e.spawn job)
  | set {step} (intent : request.intent e.model.registry e.committed = .set step) :
      Intended e request { e.stand (e.standing.set step).1 with turn := .free }

theorem Step.intends (hs : e.Step .plan e') (turn : e.turn = .entered request) :
    Intended e request e' := by
  cases hs with
  | refuseAdvance turn' plan =>
    cases turn.symm.trans turn'; exact .refused (intent_advance_error plan)
  | planAdvance turn' plan => cases turn.symm.trans turn'; exact .sent (intent_advance_ok plan)
  | refuseReset turn' check =>
    cases turn.symm.trans turn'; exact .refused (intent_reset_error check)
  | planReset turn' check => cases turn.symm.trans turn'; exact .sent (intent_reset_ok check)
  | @refuseStep step error turn' set =>
    cases turn.symm.trans turn'
    have h : (e.standing.set step).1 = e.standing := by simp only [Standing.set, standing, set]
    have he : { e with turn := .free } = { e.stand (e.standing.set step).1 with turn := .free } := by
      rw [h]; rfl
    rw [he]
    exact .set rfl
  | @setStep step committed turn' set =>
    cases turn.symm.trans turn'
    have h : (e.standing.set step).1 = { e.standing with committed } := by
      simp only [Standing.set, standing, set]
    have he : { e with committed, turn := .free } =
        { e.stand (e.standing.set step).1 with turn := .free } := by rw [h]; rfl
    rw [he]
    exact .set rfl

/-- Who stops waiting learns whether the call is in flight, and that is so exactly if it was running
and did not come back. -/
theorem Step.learns (hs : e.Step m e') (hm : m.ofCaller = true) :
    ∃ i told, e.turn = .awaiting i ∧ e'.turn = .learned i told ∧
      (LeavesInside ⟨e, m, e'⟩ ↔ InFlight told) := by
  -- the task that the caller waits for is the one that the step is about
  have about {i t} (turn : e.turn = .awaiting i) (task : e.tasks[i]? = some t) :
      LeavesInside ⟨e, m, e'⟩ ↔
        t.phase = .running ∧ (m = .expire ∨ m = .hear ∧ t.stage = .ended .aborted) := by
    constructor
    · rintro ⟨j, u, hj, hu, h⟩
      cases turn.symm.trans hj
      cases task.symm.trans hu
      exact h
    · exact fun h => ⟨i, t, turn, task, h⟩
  cases hs with
  | @hear i t answer turn task ended =>
    refine ⟨i, answer, turn, rfl, (about turn task).trans ?_⟩
    unfold Task.answer? at ended
    cases hs : t.stage with
    | ended outcome =>
      rw [hs] at ended
      cases ended
      cases outcome <;> simp [InFlight, TaskOutcome.answer, CallFailure.settled, CallFailure.lost]
    | skipped => rw [hs] at ended; cases ended; simp [InFlight, CallFailure.settled]
    | waiting | locked | inside => rw [hs] at ended; cases ended
  | @expire i t turn task =>
    refine ⟨i, _, turn, rfl, (about turn task).trans ?_⟩
    simp [InFlight, CallFailure.timedOut]
  | _ => cases hm

/-- Nobody is answered while a call and its task are on their way. -/
theorem replies_between (hm : m.ofTask = true ∨ m.ofCaller = true) :
    replies (ts ++ [⟨e, m, e'⟩]) = replies ts := by
  have silent : e.reply? m = none := by
    cases m with
    | enter | plan | settle => rcases hm with hm | hm <;> cases hm
    | lock | look | work | hear | expire => rfl
  rw [replies_snoc]
  simp [silent]

omit [Scalar α] in
theorem not_leavesInside {x : Transition (Engine α σ) (Move α)} (h : x.label.ofCaller = false) :
    ¬ LeavesInside x := by
  rintro ⟨i, t, -, -, -, hx | ⟨hx, -⟩⟩ <;> rw [hx] at h <;> cases h

omit [Scalar α] in
/-- Only who waits can leave. -/
theorem leftInside_between (hm : m.ofCaller = false) :
    LeftInside (ts ++ [⟨e, m, e'⟩]) ↔ LeftInside ts :=
  (leftInside_snoc ts _).trans (or_iff_left (not_leavesInside hm))

/-- Tasks move on without the call behind the gate. -/
theorem Step.task_frame (hs : e.Step m e') (hm : m.ofTask = true) :
    e'.turn = e.turn ∧ e'.tasks.length = e.tasks.length := by
  cases hs with
  | lock | run | skip | work => exact ⟨rfl, List.length_set⟩
  | _ => cases hm

theorem conclude_standing (e : Engine α σ) (job : Job α) (told : Told α) :
    (e.conclude job told).standing = (e.standing.conclude job told).1 := by cases job <;> rfl

theorem conclude_turn (e : Engine α σ) (job : Job α) (told : Told α) :
    (e.conclude job told).turn = .free := by cases job <;> rfl

/-! ## Where the call stands -/

/-- Where a call stands that has passed the gate of `e`, after the transitions since. -/
inductive Underway (e : Engine α σ) (request : Request α)
    (ts : List (Transition (Engine α σ) (Move α))) (e' : Engine α σ) : Prop
  /-- It has not looked at the committed state. -/
  | entered (turn : e'.turn = .entered request) (same : e'.standing = e.standing)
      (unsent : e'.tasks.length = e.tasks.length) (silent : replies ts = [])
      (stayed : ¬ LeftInside ts)
  | awaiting {i t} (turn : e'.turn = .awaiting i) (same : e'.standing = e.standing)
      (task : e'.tasks[i]? = some t)
      (intent : request.intent e.model.registry e.committed = .send t.job)
      (silent : replies ts = []) (stayed : ¬ LeftInside ts)
  | learned {i t told} (turn : e'.turn = .learned i told) (same : e'.standing = e.standing)
      (task : e'.tasks[i]? = some t)
      (intent : request.intent e.model.registry e.committed = .send t.job)
      (silent : replies ts = []) (left : LeftInside ts ↔ InFlight told)
  /-- It has left the gate, and was as a whole what a call is that is told the same of its task. -/
  | answered {told reply} (turn : e'.turn = .free)
      (call : e.standing.call e.model.registry request told = some (e'.standing, reply))
      (unsent : told = none → e'.tasks.length = e.tasks.length) (replied : replies ts = [reply])
      (left : LeftInside ts ↔ ∃ answer, told = some answer ∧ InFlight answer)

theorem Underway.task (h : Underway e request ts e') (hs : e'.Step m e'') (hm : m.ofTask = true) :
    Underway e request (ts ++ [⟨e', m, e''⟩]) e'' := by
  obtain ⟨hstanding, -, jobs⟩ := hs.model_frame (.inl hm)
  obtain ⟨hturn, hlength⟩ := hs.task_frame hm
  have hreplies : replies (ts ++ [⟨e', m, e''⟩]) = replies ts := replies_between (.inl hm)
  have hcaller : m.ofCaller = false := by cases m <;> first | rfl | cases hm
  have hleft : LeftInside (ts ++ [⟨e', m, e''⟩]) ↔ LeftInside ts := leftInside_between hcaller
  cases h with
  | entered turn same unsent silent stayed =>
    exact .entered (hturn.trans turn) (hstanding.trans same) (hlength.trans unsent)
      (hreplies.trans silent) (hleft.not.2 stayed)
  | awaiting turn same task intent silent stayed =>
    obtain ⟨t', task', job⟩ := jobs _ _ task
    exact .awaiting (hturn.trans turn) (hstanding.trans same) task' (job ▸ intent)
      (hreplies.trans silent) (hleft.not.2 stayed)
  | learned turn same task intent silent left =>
    obtain ⟨t', task', job⟩ := jobs _ _ task
    exact .learned (hturn.trans turn) (hstanding.trans same) task' (job ▸ intent)
      (hreplies.trans silent) (hleft.trans left)
  | answered turn call unsent replied left =>
    exact .answered (hturn.trans turn) (hstanding ▸ call) (fun h => hlength.trans (unsent h))
      (hreplies.trans replied) (hleft.trans left)

theorem Underway.plan (h : Underway e request ts e') (model : e'.model = e.model)
    (hs : e'.Step .plan e'') : Underway e request (ts ++ [⟨e', .plan, e''⟩]) e'' := by
  have hleft : LeftInside (ts ++ [⟨e', .plan, e''⟩]) ↔ LeftInside ts := leftInside_between rfl
  obtain ⟨planned, turn'⟩ : ∃ planned, e'.turn = .entered planned := by
    cases hs <;> exact ⟨_, by assumption⟩
  cases h with
  | entered turn same unsent silent stayed =>
    have committed : e'.committed = e.committed := congrArg Standing.committed same
    have hreplies : replies (ts ++ [⟨e', .plan, e''⟩]) = (e'.reply? .plan).toList := by
      rw [replies_snoc, silent, List.nil_append]
    have nothing : ¬ LeftInside (ts ++ [⟨e', .plan, e''⟩]) := hleft.not.2 stayed
    have untold : LeftInside (ts ++ [⟨e', .plan, e''⟩]) ↔
        ∃ answer, (none : Option (Told α)) = some answer ∧ InFlight answer := by simp [nothing]
    cases hs.intends turn with
    | @refused reply intent =>
      have hr : e'.reply? .plan = some reply := by simp only [reply?, turn, intent]
      refine .answered rfl ?_ (fun _ => unsent) (by rw [hreplies, hr]; rfl) untold
      rw [model, committed] at intent
      exact (Standing.call_refuse intent).trans (by rw [← same]; rfl)
    | @sent job intent =>
      have hr : e'.reply? .plan = none := by simp only [reply?, turn, intent]
      rw [model, committed] at intent
      exact .awaiting rfl same List.getElem?_concat_length intent (by rw [hreplies, hr]; rfl)
        nothing
    | @set step intent =>
      have hr : e'.reply? .plan = some (e'.standing.set step).2 := by
        simp only [reply?, turn, intent]
      refine .answered rfl ?_ (fun _ => unsent) (by rw [hreplies, hr]; rfl) untold
      cases intent_set intent
      exact (Standing.call_set e.standing step).trans (by rw [← same]; rfl)
  | awaiting turn | learned turn | answered turn => cases turn'.symm.trans turn

theorem Underway.learn (h : Underway e request ts e') (hs : e'.Step m e'')
    (hm : m.ofCaller = true) : Underway e request (ts ++ [⟨e', m, e''⟩]) e'' := by
  obtain ⟨i, told, turn', learned, hleaves⟩ := hs.learns hm
  cases h with
  | awaiting turn same task intent silent stayed =>
    cases turn'.symm.trans turn
    obtain ⟨hstanding, -, jobs⟩ := hs.model_frame (.inr hm)
    obtain ⟨t', task', job⟩ := jobs _ _ task
    refine .learned learned (hstanding.trans same) task' (job ▸ intent)
      ((replies_between (.inr hm)).trans silent) ?_
    exact (leftInside_snoc ts _).trans ((or_iff_right stayed).trans hleaves)
  | entered turn | learned turn | answered turn => cases turn'.symm.trans turn

theorem Underway.settle (h : Underway e request ts e') (hs : e'.Step .settle e'') :
    Underway e request (ts ++ [⟨e', .settle, e''⟩]) e'' := by
  have hleft : LeftInside (ts ++ [⟨e', .settle, e''⟩]) ↔ LeftInside ts := leftInside_between rfl
  cases hs with
  | @settle i t answer turn' task' =>
    cases h with
    | learned turn same task intent silent left =>
      cases turn'.symm.trans turn
      cases task'.symm.trans task
      have hr : e'.reply? .settle = some (e'.standing.conclude t.job answer).2 := by
        simp only [reply?, turn, task, Option.map_some]
      have call : e.standing.call e.model.registry request (some answer) =
          some ((e'.conclude t.job answer).standing, (e'.standing.conclude t.job answer).2) := by
        rw [conclude_standing, same]
        exact Standing.call_send intent answer
      exact .answered (conclude_turn ..) call nofun (by rw [replies_snoc, silent, hr]; rfl)
        (by simpa using hleft.trans left)
    | entered turn | awaiting turn | answered turn => cases turn'.symm.trans turn

theorem underway_step (h : Underway e request ts e') (model : e'.model = e.model)
    (hs : e'.Step m e'') (alone : ∀ other, m ≠ .enter other) :
    Underway e request (ts ++ [⟨e', m, e''⟩]) e'' := by
  cases m with
  | enter other => exact absurd rfl (alone other)
  | plan => exact h.plan model hs
  | lock | look | work => exact h.task hs rfl
  | hear | expire => exact h.learn hs rfl
  | settle => exact h.settle hs

variable {scenario : Scenario α} {specs : List (KpiSpec α)} {unit : EmulationUnit α σ}

theorem underway_run (hr : (lts scenario specs unit).Run { e with turn := .entered request } ts e')
    (alone : ∀ x ∈ ts, ∀ other, x.label ≠ .enter other) : Underway e request ts e' := by
  have h := hr.invariant (P := fun ts e' => (∀ x ∈ ts, ∀ other, x.label ≠ .enter other) →
    e'.model = e.model ∧ Underway e request ts e') ?_ ?_
  · exact (h alone).2
  · exact fun _ => ⟨rfl, .entered rfl rfl rfl rfl fun ⟨_, hx, _⟩ => nomatch hx⟩
  · intro ts e' m e'' ih hs alone
    obtain ⟨model, h⟩ := ih fun x hx => alone x (List.mem_append_left _ hx)
    have last := alone ⟨e', m, e''⟩ (List.mem_append_right _ (List.mem_singleton_self _))
    exact ⟨(Step.model_eq hs).trans model, underway_step h model hs last⟩

/-- A passage with its first step, through the gate. -/
theorem Passage.whole {reply : Reply α} (h : Passage (lts scenario specs unit) e request ts e' reply) :
    (lts scenario specs unit).Run e
      (⟨e, .enter request, { e with turn := .entered request }⟩ :: ts) e' :=
  (LTS.Run.nil.snoc (Step.enter h.free request)).append h.run

/-- A call that has been answered is, as a whole, what a call is that is told the same of its
task. -/
theorem Passage.served {reply : Reply α} (h : Passage (lts scenario specs unit) e request ts e' reply) :
    ∃ told, e.standing.call e.model.registry request told = some (e'.standing, reply) ∧
      (told = none → e'.tasks.length = e.tasks.length) ∧
      (LeftInside ts ↔ ∃ answer, told = some answer ∧ InFlight answer) := by
  have answered := h.answered
  cases underway_run h.run h.alone with
  | entered _ _ _ silent | awaiting _ _ _ _ silent | learned _ _ _ _ silent =>
    rw [silent] at answered
    cases answered
  | answered turn call unsent replied left =>
    rw [replied] at answered
    cases List.mem_singleton.1 answered
    exact ⟨_, call, unsent, left⟩

end BuildingEmulation.Engine
