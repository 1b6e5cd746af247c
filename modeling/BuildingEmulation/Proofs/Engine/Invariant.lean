import BuildingEmulation.Proofs.Engine.Task

/-!
# What holds between a session and its tasks

Two invariants of the steps in which calls really happen. `Booked` is about the tasks alone: each
is in order, the call behind the gate is about the last one, every other caller has been told, and
whoever has the model has the lock. `Calm` relates them to the lifecycle: in a ready session all
tasks are done but that of the call on its way, and so they are once that call has got into the
unit.

Results:
* `sound_inductive`: every step of every run keeps both.
-/
namespace BuildingEmulation.Engine

variable {α σ : Type} {e e' : Engine α σ}

/-! ## The tasks after a step -/

/-- What a step makes of the tasks. -/
inductive Effect (e : Engine α σ) : List (Task α σ) → Prop
  | same : Effect e e.tasks
  | spawned (job : Job α) (gate : e.turn.task? = none)
      (ready : ¬ job.IsReset → e.committed.lifecycle = .ready) : Effect e (e.tasks ++ [.fresh job])
  | changed {i t t'} (task : e.tasks[i]? = some t) (next : t.Next t') : Effect e (e.tasks.set i t')

section

variable {β : Type} {xs : List β} {x : β} {i : Nat}

theorem getElem?_set_of (h : xs[i]? = some x) (y : β) (j : Nat) :
    (xs.set i y)[j]? = if j = i then some y else xs[j]? := by
  obtain ⟨hi, -⟩ := List.getElem?_eq_some_iff.1 h
  rw [List.getElem?_set]
  by_cases hj : j = i
  · rw [if_pos hj.symm, if_pos hi, if_pos hj]
  · rw [if_neg (Ne.symm hj), if_neg hj]

theorem set_self (h : xs[i]? = some x) (y : β) : (xs.set i y)[i]? = some y :=
  (getElem?_set_of h y i).trans (if_pos rfl)

theorem of_getElem?_snoc {y : β} (h : (xs ++ [x])[i]? = some y) :
    xs[i]? = some y ∨ (i = xs.length ∧ y = x) := by
  by_cases hi : i < xs.length
  · rw [List.getElem?_append_left hi] at h
    exact .inl h
  · obtain ⟨hl, -⟩ := List.getElem?_eq_some_iff.1 h
    rw [List.length_append, List.length_singleton] at hl
    have hi : i = xs.length := by omega
    subst hi
    rw [List.getElem?_concat_length] at h
    cases h
    exact .inr ⟨rfl, rfl⟩

end

/-- Every task of before is still there, perhaps changed. -/
theorem Effect.keeps {tasks : List (Task α σ)} (h : e.Effect tasks) {j : Nat} {u : Task α σ}
    (hu : e.tasks[j]? = some u) : ∃ u', tasks[j]? = some u' ∧ (u' = u ∨ u.Next u') := by
  cases h with
  | same => exact ⟨u, hu, .inl rfl⟩
  | spawned =>
    obtain ⟨hj, -⟩ := List.getElem?_eq_some_iff.1 hu
    exact ⟨u, by rw [List.getElem?_append_left hj, hu], .inl rfl⟩
  | @changed i t t' task next =>
    rw [getElem?_set_of task]
    by_cases hj : j = i
    · subst hj
      rw [task] at hu
      cases hu
      exact ⟨t', if_pos rfl, .inr next⟩
    · exact ⟨u, by rw [if_neg hj, hu], .inl rfl⟩

/-- Every task was there before, or has just been sent off: an advance only if the session is
ready. -/
theorem Effect.origin {tasks : List (Task α σ)} (h : e.Effect tasks) {j : Nat} {u' : Task α σ}
    (hu : tasks[j]? = some u') :
    (∃ u, e.tasks[j]? = some u ∧ (u' = u ∨ u.Next u')) ∨
      (j = e.tasks.length ∧ e.turn.task? = none ∧ ∃ job, u' = .fresh job ∧
        (¬ job.IsReset → e.committed.lifecycle = .ready)) := by
  cases h with
  | same => exact .inl ⟨u', hu, .inl rfl⟩
  | spawned job gate ready =>
    rcases of_getElem?_snoc hu with hu | ⟨hj, rfl⟩
    · exact .inl ⟨u', hu, .inl rfl⟩
    · exact .inr ⟨hj, gate, job, rfl, ready⟩
  | @changed i t t' task next =>
    rw [getElem?_set_of task] at hu
    split at hu
    · next hj => cases hu; exact .inl ⟨t, hj ▸ task, .inr next⟩
    · exact .inl ⟨u', hu, .inl rfl⟩

/-! ## Tasks in order -/

/-- The tasks are in order, and so are the gate and the lock. -/
structure Booked (e : Engine α σ) : Prop where
  legal : ∀ (i : Nat) (t : Task α σ), e.tasks[i]? = some t → t.Legal
  current : ∀ i, e.turn.task? = some i → i + 1 = e.tasks.length
  awaiting : ∀ (i : Nat) (t : Task α σ), e.turn = .awaiting i → e.tasks[i]? = some t → t.told = none
  learned : ∀ (i : Nat) answer (t : Task α σ), e.turn = .learned i answer → e.tasks[i]? = some t →
    t.told = some answer
  untold : ∀ (i : Nat) (t : Task α σ), e.tasks[i]? = some t → t.told = none → e.turn = .awaiting i
  lock : ∀ (i : Nat) (t : Task α σ), e.tasks[i]? = some t → t.stage.holds = true → e.lock = some i

/-- While no caller waits, the gate may pass a call on, or let it go. -/
theorem Booked.pass (h : e.Booked) (hw : ∀ i, e.turn ≠ .awaiting i) (htasks : e'.tasks = e.tasks)
    (hlock : e'.lock = e.lock) (hturn : e'.turn.task? = none) : e'.Booked := by
  refine ⟨by rw [htasks]; exact h.legal, ?_, ?_, ?_, ?_, by rw [htasks, hlock]; exact h.lock⟩
  · intro i hi; rw [hturn] at hi; cases hi
  · intro i t hi; rw [hi] at hturn; cases hturn
  · intro i answer t hi; rw [hi] at hturn; cases hturn
  · intro i t ht hn
    rw [htasks] at ht
    exact absurd (h.untold i t ht hn) (hw i)

theorem Booked.spawn (h : e.Booked) (hw : ∀ i, e.turn ≠ .awaiting i) (job : Job α) :
    (e.spawn job).Booked := by
  have origin {i t} (ht : (e.spawn job).tasks[i]? = some t) :
      e.tasks[i]? = some t ∨ (i = e.tasks.length ∧ t = .fresh job) := of_getElem?_snoc ht
  refine ⟨?_, ?_, ?_, ?_, ?_, ?_⟩
  · intro i t ht
    rcases origin ht with ht | ⟨-, rfl⟩
    · exact h.legal i t ht
    · exact Task.fresh_legal job
  · intro i hi
    cases hi
    change e.tasks.length + 1 = (e.tasks ++ [Task.fresh job]).length
    rw [List.length_append]
    rfl
  · intro i t hi ht
    cases hi
    rcases origin ht with ht | ⟨-, rfl⟩
    · rw [List.getElem?_eq_none (Nat.le_refl _)] at ht; cases ht
    · rfl
  · intro i answer t hi; cases hi
  · intro i t ht hn
    rcases origin ht with ht | ⟨rfl, -⟩
    · exact absurd (h.untold i t ht hn) (hw i)
    · rfl
  · intro i t ht hl
    rcases origin ht with ht | ⟨-, rfl⟩
    · exact h.lock i t ht hl
    · cases hl

/-- A task gets on; its caller is not told yet, or has been told before. -/
theorem Booked.task (h : e.Booked) {i : Nat} {t t' : Task α σ} (task : e.tasks[i]? = some t)
    (next : t.Next t') (told : t'.told = t.told) (htasks : e'.tasks = e.tasks.set i t')
    (hturn : e'.turn = e.turn) (hlock : t'.stage.holds = true → e'.lock = some i)
    (others : ∀ j u, j ≠ i → e.tasks[j]? = some u → u.stage.holds = true → e'.lock = some j) :
    e'.Booked := by
  have get (j) : e'.tasks[j]? = if j = i then some t' else e.tasks[j]? := by
    rw [htasks, getElem?_set_of task]
  refine ⟨?_, ?_, ?_, ?_, ?_, ?_⟩
  · intro j u hu
    rw [get] at hu
    split at hu
    · cases hu; exact next.legal (h.legal i t task)
    · exact h.legal j u hu
  · intro j hj
    rw [htasks, List.length_set]
    exact h.current j (hturn ▸ hj)
  · intro j u hj hu
    rw [get] at hu
    rw [hturn] at hj
    split at hu
    · next hji => subst hji; cases hu; rw [told]; exact h.awaiting j t hj task
    · exact h.awaiting j u hj hu
  · intro j answer u hj hu
    rw [get] at hu
    rw [hturn] at hj
    split at hu
    · next hji => subst hji; cases hu; rw [told]; exact h.learned j answer t hj task
    · exact h.learned j answer u hj hu
  · intro j u hu hn
    rw [get] at hu
    rw [hturn]
    split at hu
    · next hji => subst hji; cases hu; exact h.untold j t task (told ▸ hn)
    · exact h.untold j u hu hn
  · intro j u hu hl
    rw [get] at hu
    split at hu
    · next hji => subst hji; cases hu; exact hlock hl
    · next hji => exact others j u hji hu hl

/-- The caller that waits is told something. -/
theorem Booked.tell (h : e.Booked) {i : Nat} {t t' : Task α σ}
    {answer : Except (CallFailure α) (SignalMap α)} (turn : e.turn = .awaiting i)
    (task : e.tasks[i]? = some t) (next : t.Next t') (told : t'.told = some answer)
    (stage : t'.stage = t.stage) (htasks : e'.tasks = e.tasks.set i t')
    (hturn : e'.turn = .learned i answer) (hlock : e'.lock = e.lock) : e'.Booked := by
  have get (j) : e'.tasks[j]? = if j = i then some t' else e.tasks[j]? := by
    rw [htasks, getElem?_set_of task]
  refine ⟨?_, ?_, ?_, ?_, ?_, ?_⟩
  · intro j u hu
    rw [get] at hu
    split at hu
    · cases hu; exact next.legal (h.legal i t task)
    · exact h.legal j u hu
  · intro j hj
    rw [hturn] at hj
    cases hj
    rw [htasks, List.length_set]
    exact h.current i (by rw [turn]; rfl)
  · intro j u hj; rw [hturn] at hj; cases hj
  · intro j answer' u hj hu
    rw [hturn] at hj
    cases hj
    rw [get, if_pos rfl] at hu
    cases hu
    exact told
  · intro j u hu hn
    rw [get] at hu
    split at hu
    · cases hu; rw [told] at hn; cases hn
    · next hji =>
      have hj := h.untold j u hu hn
      rw [turn] at hj
      cases hj
      exact absurd rfl hji
  · intro j u hu hl
    rw [get] at hu
    rw [hlock]
    split at hu
    · next hji => subst hji; cases hu; exact h.lock j t task (stage ▸ hl)
    · exact h.lock j u hu hl

/-- The call behind the gate is about a task that is there. -/
theorem Booked.task_of_turn (h : e.Booked) {i : Nat} (hi : e.turn.task? = some i) :
    ∃ t, e.tasks[i]? = some t := by
  have hc := h.current i hi
  exact ⟨_, List.getElem?_eq_getElem (by omega)⟩

/-- Tasks other than the one that is waited for have been told, and those without the lock are
not inside. -/
theorem Booked.done_of_ne (h : e.Booked) {i j : Nat} {u : Task α σ} (turn : e.turn = .awaiting i)
    (lock : e.lock = some i) (hj : j ≠ i) (hu : e.tasks[j]? = some u) : u.Done := by
  constructor
  · intro hn
    have := h.untold j u hu hn
    rw [turn] at this
    cases this
    exact hj rfl
  · rintro ⟨rest, hr⟩
    have := h.lock j u hu (by rw [hr]; rfl)
    rw [lock] at this
    cases this
    exact hj rfl

/-! ## Lifecycle and tasks -/

/-- When the lifecycle lets a call reach the unit, no other task does. -/
structure Calm (e : Engine α σ) : Prop where
  ready : e.committed.lifecycle = .ready → e.turn.task? = none →
    ∀ (j : Nat) (u : Task α σ), e.tasks[j]? = some u → u.Done
  alone : ∀ (i : Nat) (t : Task α σ), e.turn.task? = some i → e.tasks[i]? = some t →
    e.committed.lifecycle = .ready ∨ t.GotIn →
      ∀ (j : Nat) (u : Task α σ), j ≠ i → e.tasks[j]? = some u → u.Done
  advancing : ∀ (i : Nat) (t : Task α σ), e.turn.task? = some i → e.tasks[i]? = some t →
    ¬ t.job.IsReset → e.committed.lifecycle = .ready

/-- A step that leaves the tasks alone and ends without a task. -/
theorem Calm.pass (htasks : e'.tasks = e.tasks) (hturn : e'.turn.task? = none)
    (ready : e'.committed.lifecycle = .ready →
      ∀ (j : Nat) (u : Task α σ), e.tasks[j]? = some u → u.Done) : e'.Calm := by
  refine ⟨fun hl _ => htasks ▸ ready hl, ?_, ?_⟩
  · intro i t hi; rw [hturn] at hi; cases hi
  · intro i t hi; rw [hturn] at hi; cases hi

/-- An advance is sent off by a ready session, a reset by any. -/
theorem Calm.spawn (h : e.Calm) (hturn : e.turn.task? = none) {job : Job α}
    (hjob : ¬ job.IsReset → e.committed.lifecycle = .ready) : (e.spawn job).Calm := by
  have last {t} (ht : (e.spawn job).tasks[e.tasks.length]? = some t) : t = .fresh job := by
    rcases of_getElem?_snoc ht with ht | ⟨-, ht⟩
    · rw [List.getElem?_eq_none (Nat.le_refl _)] at ht; cases ht
    · exact ht
  refine ⟨fun _ hi => (nomatch hi), ?_, ?_⟩
  · intro i t hi ht hg j u hj hu
    cases hi
    rcases of_getElem?_snoc hu with hu | ⟨hj', -⟩
    · rcases hg with hl | hg
      · exact h.ready hl hturn j u hu
      · have ht := last ht
        subst ht
        exact absurd hg (Task.not_gotIn (.inl (.inl rfl)))
    · exact absurd hj' hj
  · intro i t hi ht hn
    cases hi
    have ht := last ht
    subst ht
    exact hjob hn

/-- A task gets on. If it gets into the unit now, all others must be done. -/
theorem Calm.task (h : e.Calm) (hb : e.Booked) {i : Nat} {t t' : Task α σ}
    (task : e.tasks[i]? = some t) (next : t.Next t') (htasks : e'.tasks = e.tasks.set i t')
    (hturn : e'.turn.task? = e.turn.task?) (hcommitted : e'.committed = e.committed)
    (gotIn : t'.GotIn → t.GotIn ∨
      ∀ (j : Nat) (u : Task α σ), j ≠ i → e.tasks[j]? = some u → u.Done) : e'.Calm := by
  have get (j) : e'.tasks[j]? = if j = i then some t' else e.tasks[j]? := by
    rw [htasks, getElem?_set_of task]
  have done (hd : t.Done) : t'.Done := next.done (hb.legal i t task) hd
  refine ⟨?_, ?_, ?_⟩
  · intro hl ht j u hu
    rw [hcommitted] at hl
    rw [hturn] at ht
    rw [get] at hu
    split at hu
    · cases hu; exact done (h.ready hl ht i t task)
    · exact h.ready hl ht j u hu
  · intro k v hk hv hg j u hj hu
    rw [hturn] at hk
    rw [hcommitted] at hg
    rw [get] at hu hv
    split at hv
    · next hki =>
      subst hki
      cases hv
      rw [if_neg hj] at hu
      rcases hg with hl | hg
      · exact h.alone k t hk task (.inl hl) j u hj hu
      · rcases gotIn hg with hg | hd
        · exact h.alone k t hk task (.inr hg) j u hj hu
        · exact hd j u hj hu
    · split at hu
      · next hji => subst hji; cases hu; exact done (h.alone k v hk hv hg j t hj task)
      · exact h.alone k v hk hv hg j u hj hu
  · intro k v hk hv hn
    rw [hturn] at hk
    rw [hcommitted]
    rw [get] at hv
    split at hv
    · next hki => subst hki; cases hv; exact h.advancing k t hk task (next.job_eq ▸ hn)
    · exact h.advancing k v hk hv hn

/-! ## Every step keeps both -/

variable [Scalar α] {m : Move α}

theorem booked_step (h : e.Booked) (hs : e.Step m e') : e'.Booked := by
  cases hs with
  | enter turn | refuseAdvance turn | refuseReset turn | refuseStep turn | setStep turn =>
    exact h.pass (by rw [turn]; exact fun _ h => nomatch h) rfl rfl rfl
  | planAdvance turn | planReset turn =>
    exact h.spawn (by rw [turn]; exact fun _ h => nomatch h) _
  | lock task waiting open_ =>
    refine h.task task (.lock waiting) rfl rfl rfl (fun _ => rfl) ?_
    intro j u _ hu hl
    rw [h.lock j u hu hl] at open_
    cases open_
  | run task locked phase =>
    have hlock := h.lock _ _ task (by rw [locked]; rfl)
    exact h.task task (.run locked phase) rfl rfl rfl (fun _ => hlock) fun j u _ => h.lock j u
  | skip task locked phase =>
    have hlock := h.lock _ _ task (by rw [locked]; rfl)
    refine h.task task (.skip locked phase) rfl rfl rfl (fun hl => nomatch hl) ?_
    intro j u hj hu hl
    rw [h.lock j u hu hl] at hlock
    cases hlock
    exact absurd rfl hj
  | work task inside =>
    have hlock := h.lock _ _ task (by rw [inside]; rfl)
    refine h.task task (.work inside _) rfl rfl rfl (fun hl => (if_pos hl).trans hlock) ?_
    intro j u hj hu hl
    rw [h.lock j u hu hl] at hlock
    cases hlock
    exact absurd rfl hj
  | hear turn task ended =>
    exact h.tell turn task (.hear (h.awaiting _ _ turn task) ended) rfl rfl rfl rfl rfl
  | expire turn task =>
    exact h.tell turn task (.expire (h.awaiting _ _ turn task)) rfl rfl rfl rfl rfl
  | @settle i t answer turn task =>
    refine h.pass (by rw [turn]; exact fun _ h => nomatch h) ?_ ?_ ?_ <;> cases t.job <;> rfl

omit [Scalar α] in
/-- Once the caller has an answer that is not in flight, its task is done like all others. -/
theorem done_of_learned (hb : e.Booked) (hc : e.Calm) {i : Nat} {t : Task α σ}
    {answer : Except (CallFailure α) (SignalMap α)} (turn : e.turn = .learned i answer)
    (task : e.tasks[i]? = some t) (quiet : e.turn.Quiet)
    (hg : e.committed.lifecycle = .ready ∨ t.GotIn) :
    ∀ (j : Nat) (u : Task α σ), e.tasks[j]? = some u → u.Done := by
  have hi : e.turn.task? = some i := by rw [turn]; rfl
  have legal := hb.legal i t task
  have told := hb.learned i answer t turn task
  rw [turn] at quiet
  intro j u hu
  by_cases hj : j = i
  · subst hj
    rw [task] at hu
    cases hu
    refine ⟨by rw [told]; exact fun h => (nomatch h), ?_⟩
    cases answer with
    | ok outputs =>
      have hs := legal.of_ok told
      exact fun ⟨rest, hr⟩ => by rw [hs] at hr; cases hr
    | error failure => exact legal.outside_of_settled told quiet
  · exact hc.alone i t hi task hg j u hj hu

/-- An answer that leaves a session ready leaves no task inside the unit. -/
theorem ready_conclude (hb : e.Booked) (hc : e.Calm) {i : Nat} {t : Task α σ}
    {answer : Except (CallFailure α) (SignalMap α)} (turn : e.turn = .learned i answer)
    (task : e.tasks[i]? = some t) (ready : (e.conclude t.job answer).committed.lifecycle = .ready) :
    ∀ (j : Nat) (u : Task α σ), e.tasks[j]? = some u → u.Done := by
  have hi : e.turn.task? = some i := by rw [turn]; rfl
  cases answer with
  | ok outputs =>
    have hs := (hb.legal i t task).of_ok (hb.learned i _ t turn task)
    exact done_of_learned hb hc turn task (by rw [turn]; trivial) (.inr (.inr ⟨_, hs⟩))
  | error failure =>
    cases hjob : t.job with
    | reset step => rw [hjob] at ready; cases ready
    | advance p latency =>
      rw [hjob] at ready
      have hf : failure.inFlight = false := by
        cases hf : failure.inFlight with
        | false => rfl
        | true =>
          change (e.committed.fail failure.inFlight).lifecycle = _ at ready
          rw [hf] at ready; cases ready
      have hl := hc.advancing i t hi task (by rw [hjob]; exact id)
      exact done_of_learned hb hc turn task (by rw [turn]; exact hf) (.inl hl)

theorem calm_step (hb : e.Booked) (hc : e.Calm) (hs : e.Step m e') : e'.Calm := by
  cases hs with
  | enter turn | refuseAdvance turn | refuseReset turn | refuseStep turn =>
    have hn : e.turn.task? = none := by rw [turn]; rfl
    exact .pass rfl rfl fun hl => hc.ready hl hn
  | @setStep step committed turn set =>
    have hn : e.turn.task? = none := by rw [turn]; rfl
    refine .pass rfl rfl fun hl => hc.ready ?_ hn
    rcases e.committed.setStep_cases step with ⟨-, h⟩ | ⟨fault, h⟩
    · rw [h] at set; cases set; exact hl
    · rw [h] at set; cases set
  | @planAdvance latency inputs p turn plan =>
    have hn : e.turn.task? = none := by rw [turn]; rfl
    refine hc.spawn hn fun _ => ?_
    rcases e.committed.plan_cases e.model.registry inputs with ⟨hl, -, -⟩ | ⟨error, h, -⟩
    · exact hl
    · rw [h] at plan; cases plan
  | planReset turn =>
    have hn : e.turn.task? = none := by rw [turn]; rfl
    exact hc.spawn hn fun h => absurd trivial h
  | lock task waiting =>
    exact hc.task hb task (.lock waiting) rfl rfl rfl fun hg =>
      absurd hg (Task.not_gotIn (.inl (.inr rfl)))
  | @run i t task locked phase =>
    -- whoever may still get in is the task that the caller waits for
    have turn : e.turn = .awaiting i := by
      refine hb.untold i t task ?_
      have legal := hb.legal i t task
      cases legal with
      | outside => rfl
      | abandoned => exact absurd rfl phase
      | _ => cases locked
    have lock : e.lock = some i := hb.lock i t task (by rw [locked]; rfl)
    exact hc.task hb task (.run locked phase) rfl rfl rfl fun _ =>
      .inr fun j u hj hu => hb.done_of_ne turn lock hj hu
  | skip task locked phase =>
    exact hc.task hb task (.skip locked phase) rfl rfl rfl fun hg =>
      absurd hg (Task.not_gotIn (.inr rfl))
  | work task inside =>
    exact hc.task hb task (.work inside _) rfl rfl rfl fun _ => .inl (.inl ⟨_, inside⟩)
  | @hear i t answer turn task ended =>
    have hn : e.turn.task? = some i := by rw [turn]; rfl
    exact hc.task hb task (.hear (hb.awaiting _ _ turn task) ended) rfl hn.symm rfl .inl
  | @expire i t turn task =>
    have hn : e.turn.task? = some i := by rw [turn]; rfl
    exact hc.task hb task (.expire (hb.awaiting _ _ turn task)) rfl hn.symm rfl .inl
  | @settle i t answer turn task =>
    refine .pass ?_ ?_ (ready_conclude hb hc turn task) <;> cases t.job <;> rfl

/-- The tasks are in order, and the session is calm. -/
structure Sound (e : Engine α σ) : Prop where
  booked : e.Booked
  calm : e.Calm

omit [Scalar α] in
/-- Without tasks there is nothing to keep in order. -/
theorem Sound.of_nil (htasks : e.tasks = []) (hturn : e.turn = .free) : e.Sound := by
  have none (i : Nat) (t : Task α σ) : e.tasks[i]? ≠ some t := by
    rw [htasks]; exact fun h => nomatch h
  refine ⟨⟨?_, ?_, ?_, ?_, ?_, ?_⟩, ⟨?_, ?_, ?_⟩⟩
  · exact fun i t h => absurd h (none i t)
  · rw [hturn]; exact fun i h => nomatch h
  · exact fun i t _ h => absurd h (none i t)
  · exact fun i _ t _ h => absurd h (none i t)
  · exact fun i t h => absurd h (none i t)
  · exact fun i t h => absurd h (none i t)
  · exact fun _ _ i t h => absurd h (none i t)
  · exact fun i t _ h => absurd h (none i t)
  · exact fun i t _ h => absurd h (none i t)

omit [Scalar α] in
/-- In a ready session all tasks are done, unless a call is waited for or was left in the unit. -/
theorem Sound.done_of_ready (h : e.Sound) (ready : e.committed.lifecycle = .ready)
    (quiet : e.turn.Quiet) : ∀ (j : Nat) (u : Task α σ), e.tasks[j]? = some u → u.Done := by
  intro j u hu
  cases turn : e.turn with
  | free | entered => exact h.calm.ready ready (by rw [turn]; rfl) j u hu
  | awaiting i => rw [turn] at quiet; exact quiet.elim
  | learned i answer =>
    obtain ⟨t, task⟩ := h.booked.task_of_turn (by rw [turn]; rfl)
    exact done_of_learned h.booked h.calm turn task quiet (.inl ready) j u hu

theorem sound_inductive (scenario : Scenario α) (specs : List (KpiSpec α))
    (unit : EmulationUnit α σ) : (lts scenario specs unit).Inductive Sound where
  init := by
    rintro e ⟨s, -, rfl⟩
    exact .of_nil rfl rfl
  step := by
    intro e m e' h hs
    exact ⟨booked_step h.booked hs, calm_step h.booked h.calm hs⟩

end BuildingEmulation.Engine
