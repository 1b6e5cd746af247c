import BuildingEmulation.Proofs.Engine.Invariant
import BuildingEmulation.Proofs.Session.Fixed

/-!
# No stray calls on the unit

A task cannot be stopped: one that runs away goes on inside the unit after its caller has left, and
one that waits behind it may get the model at any later time. What keeps them away from the unit of
a ready session is the phase for those that wait, and the lifecycle for those that are inside.

Results:
* `Step.unit_eq`, `Step.inside`: only a task that is inside the unit changes it.
* `done_run`: a task that is done never touches the unit again.
* `window_run`: what happens between a reset and the next one.
* `noStrayCalls`: all of it, for every reachable state.
-/
namespace BuildingEmulation.Engine

variable {α σ : Type} [Scalar α] {scenario : Scenario α} {specs : List (KpiSpec α)}
  {unit : EmulationUnit α σ} {e e' e₀ : Engine α σ} {m : Move α}
  {ts : List (Transition (Engine α σ) (Move α))}

/-! ## Tasks that are done -/

/-- Every step changes at most one task, by one of the changes of a task. -/
theorem Step.effect (hb : e.Booked) (hs : e.Step m e') : e.Effect e'.tasks := by
  cases hs with
  | enter | refuseAdvance | refuseReset | refuseStep | setStep => exact .same
  | @planAdvance latency inputs p turn plan =>
    refine .spawned _ (by rw [turn]; rfl) fun _ => ?_
    rcases e.committed.plan_cases e.model.registry inputs with ⟨hl, -, -⟩ | ⟨error, h, -⟩
    · exact hl
    · rw [h] at plan; cases plan
  | planReset turn => exact .spawned _ (by rw [turn]; rfl) fun h => absurd trivial h
  | lock task waiting => exact .changed task (.lock waiting)
  | run task locked phase => exact .changed task (.run locked phase)
  | skip task locked phase => exact .changed task (.skip locked phase)
  | work task inside => exact .changed task (.work inside _)
  | hear turn task ended => exact .changed task (.hear (hb.awaiting _ _ turn task) ended)
  | expire turn task => exact .changed task (.expire (hb.awaiting _ _ turn task))
  | @settle i t answer turn task =>
    have h : (e.conclude t.job answer).tasks = e.tasks := by cases t.job <;> rfl
    rw [h]
    exact .same

/-- The unit changes only when it goes on with a task. -/
theorem Step.unit_eq (hs : e.Step m e') (hm : ∀ i, m ≠ .work i) : e'.unit = e.unit := by
  cases hs with
  | work => exact absurd rfl (hm _)
  | @settle i t answer => cases t.job <;> rfl
  | _ => rfl

/-- The unit goes on only with a task that is inside. -/
theorem Step.inside {i : Nat} (hs : e.Step (.work i) e') :
    ∃ t, e.tasks[i]? = some t ∧ t.Inside := by
  cases hs with
  | work task inside => exact ⟨_, task, _, inside⟩

/-- Who waits for a task goes on waiting until told something. -/
theorem Step.awaiting {i : Nat} (hs : e.Step m e') (turn : e.turn = .awaiting i) :
    e'.turn = .awaiting i ∨ ∃ answer, e'.turn = .learned i answer := by
  cases hs with
  | lock | run | skip | work => exact .inl turn
  | hear turn' | expire turn' => cases turn.symm.trans turn'; exact .inr ⟨_, rfl⟩
  | enter turn' | refuseAdvance turn' | planAdvance turn' | refuseReset turn' | planReset turn'
  | refuseStep turn' | setStep turn' | settle turn' => cases turn.symm.trans turn'

/-- Who has been told something keeps to it until settling. -/
theorem Step.learned {i : Nat} {answer : Except (CallFailure α) (SignalMap α)} (hs : e.Step m e')
    (turn : e.turn = .learned i answer) :
    e'.turn = .learned i answer ∨
      (m = .settle ∧ ∃ t, e.tasks[i]? = some t ∧ e' = e.conclude t.job answer) := by
  cases hs with
  | lock | run | skip | work => exact .inl turn
  | settle turn' task => cases turn.symm.trans turn'; exact .inr ⟨rfl, _, task, rfl⟩
  | enter turn' | refuseAdvance turn' | planAdvance turn' | refuseReset turn' | planReset turn'
  | refuseStep turn' | setStep turn' | hear turn' | expire turn' => cases turn.symm.trans turn'

/-- A call on the model was on its way before, or its task has just been sent off. -/
theorem Step.current {i : Nat} (hs : e.Step m e') (h : e'.turn.task? = some i) :
    e.turn.task? = some i ∨ i = e.tasks.length := by
  cases hs with
  | lock | run | skip | work => exact .inl h
  | planAdvance | planReset => cases h; exact .inr rfl
  | hear turn | expire turn => cases h; exact .inl (by rw [turn]; rfl)
  | @settle j t answer turn task =>
    have hn : (e.conclude t.job answer).turn.task? = none := by cases t.job <;> rfl
    cases hn.symm.trans h
  | enter | refuseAdvance | refuseReset | refuseStep | setStep => cases h

/-- A session becomes ready only when a reset has been told the outputs of its warm-up. -/
theorem Step.ready (hc : e.Calm) (hs : e.Step m e') (h : e'.committed.lifecycle = .ready) :
    e.committed.lifecycle = .ready ∨ ∃ i t outputs, e.turn = .learned i (.ok outputs) ∧
      e.tasks[i]? = some t ∧ t.job.IsReset := by
  cases hs with
  | enter | refuseAdvance | planAdvance | refuseReset | planReset | refuseStep | lock | run | skip
  | work | hear | expire => exact .inl h
  | @setStep step committed turn set =>
    rcases e.committed.setStep_cases step with ⟨-, h'⟩ | ⟨fault, h'⟩
    · rw [h'] at set; cases set; exact .inl h
    · rw [h'] at set; cases set
  | @settle i t answer turn task =>
    cases hj : t.job with
    | advance p latency =>
      exact .inl (hc.advancing i t (by rw [turn]; rfl) task (by rw [hj]; exact id))
    | reset step =>
      cases answer with
      | ok outputs => exact .inr ⟨i, t, outputs, turn, task, by rw [hj]; trivial⟩
      | error failure => rw [hj] at h; cases h

/-- A task ends only when the unit goes on with it. -/
theorem Step.ended {i : Nat} {u' : Task α σ} {outcome : TaskOutcome α} (hs : e.Step m e')
    (hu : e'.tasks[i]? = some u') (h : u'.stage = .ended outcome) :
    m = .work i ∨ ∃ u, e.tasks[i]? = some u ∧ u.stage = .ended outcome ∧ u.job = u'.job := by
  -- a task that was changed by a step has another stage, or the stage it had
  have changed {j t t'} (task : e.tasks[j]? = some t) (hu : (e.tasks.set j t')[i]? = some u')
      (job : t'.job = t.job)
      (stage : t'.stage = .ended outcome → m = .work j ∨ t.stage = t'.stage) :
      m = .work i ∨ ∃ u, e.tasks[i]? = some u ∧ u.stage = .ended outcome ∧ u.job = u'.job := by
    rw [getElem?_set_of task] at hu
    split at hu
    · next hij =>
      subst hij
      cases hu
      rcases stage h with hm | hs
      · exact .inl hm
      · exact .inr ⟨t, task, hs.trans h, job.symm⟩
    · exact .inr ⟨u', hu, h, rfl⟩
  cases hs with
  | enter | refuseAdvance | refuseReset | refuseStep | setStep => exact .inr ⟨u', hu, h, rfl⟩
  | planAdvance | planReset =>
    rcases of_getElem?_snoc hu with hu | ⟨-, rfl⟩
    · exact .inr ⟨u', hu, h, rfl⟩
    · cases h
  | lock task | run task | skip task => exact changed task hu rfl fun h => nomatch h
  | work task => exact changed task hu rfl fun _ => .inl rfl
  | hear _ task | expire _ task => exact changed task hu rfl fun _ => .inr rfl
  | @settle j t answer turn task =>
    have ht : (e.conclude t.job answer).tasks = e.tasks := by cases t.job <;> rfl
    rw [ht] at hu
    exact .inr ⟨u', hu, h, rfl⟩

/-- A call is given up, or lost, only by the caller that waits for it. -/
theorem strayed_origin (hb : e.Booked) (hb' : e'.Booked) (hs : e.Step m e') {i : Nat}
    {u' : Task α σ} (hu : e'.tasks[i]? = some u') (h : u'.Strayed) :
    (∃ answer, e'.turn = .learned i answer) ∨
      ∃ u, e.tasks[i]? = some u ∧ u.Strayed ∧ u.job = u'.job := by
  obtain ⟨failure, hf, hin⟩ := h
  rcases (hs.effect hb).origin hu with ⟨u, hu₀, rfl | next⟩ | ⟨-, -, job, rfl, -⟩
  · exact .inr ⟨u', hu₀, ⟨failure, hf, hin⟩, rfl⟩
  · by_cases hn : u.told = none
    · rcases hs.awaiting (hb.untold i u hu₀ hn) with turn | learned
      · have := hb'.awaiting i u' turn hu
        rw [hf] at this
        cases this
      · exact .inl learned
    · exact .inr ⟨u, hu₀, ⟨failure, (next.told hn).symm.trans hf, hin⟩, next.job_eq.symm⟩
  · cases hf

theorem done_step (hb : e.Booked) (hs : e.Step m e') {i : Nat} {t : Task α σ}
    (ht : e.tasks[i]? = some t) (hd : t.Done) :
    m ≠ .work i ∧ ∃ t', e'.tasks[i]? = some t' ∧ t'.Done := by
  constructor
  · rintro rfl
    obtain ⟨u, hu, hin⟩ := hs.inside
    rw [ht] at hu
    cases hu
    exact hd.outside hin
  · obtain ⟨t', ht', rfl | next⟩ := (hs.effect hb).keeps ht
    · exact ⟨t', ht', hd⟩
    · exact ⟨t', ht', next.done (hb.legal i t ht) hd⟩

/-- A task that is done stays so, and the unit never goes on with it. -/
theorem done_run (h₀ : e₀.Sound) {i : Nat} (hi : ∃ t, e₀.tasks[i]? = some t ∧ t.Done)
    (hr : (lts scenario specs unit).Run e₀ ts e) :
    e.Sound ∧ (∀ x ∈ ts, x.label ≠ .work i) ∧ ∃ t, e.tasks[i]? = some t ∧ t.Done := by
  refine hr.invariant (P := fun ts e => e.Sound ∧ (∀ x ∈ ts, x.label ≠ .work i) ∧
    ∃ t, e.tasks[i]? = some t ∧ t.Done) ⟨h₀, fun _ h => (nomatch h), hi⟩ ?_
  rintro ts e m e' ⟨hsound, hts, t, ht, hd⟩ hs
  obtain ⟨hm, hd'⟩ := done_step hsound.booked hs ht hd
  refine ⟨(sound_inductive scenario specs unit).step e m e' hsound hs, ?_, hd'⟩
  intro x hx
  rcases List.mem_append.1 hx with hx | hx
  · exact hts x hx
  · rw [List.mem_singleton.1 hx]
    exact hm

/-- A task whose limit passes while it is queued is done. -/
theorem expired_done (hb : e.Booked) {i : Nat} {t : Task α σ} (turn : e.turn = .awaiting i)
    (task : e.tasks[i]? = some t) (phase : t.phase = .queued) (hs : e.Step .expire e') :
    ∃ t', e'.tasks[i]? = some t' ∧ t'.Done := by
  cases hs with
  | @expire j u turn' task' =>
    cases turn.symm.trans turn'
    cases task.symm.trans task'
    refine ⟨_, set_self task _, fun h => (nomatch h), ?_⟩
    exact (hb.legal i t task).outside_of_queued phase

/-! ## Between a reset and the next one -/

/-- The unit went on with the task on the way. -/
def Worked (ts : List (Transition (Engine α σ) (Move α))) (i : Nat) : Prop :=
  ∃ x ∈ ts, x.label = .work i

/-- No reset got the unit to go on. -/
def UntilReset (ts : List (Transition (Engine α σ) (Move α))) : Prop :=
  ∀ x ∈ ts, ∀ i t, x.label = .work i → x.source.tasks[i]? = some t → ¬ t.job.IsReset

/-- The caller of the task put the session out of service. -/
def PutOut (ts : List (Transition (Engine α σ) (Move α))) (i : Nat) : Prop :=
  ∃ x ∈ ts, x.label = .settle ∧ (∃ answer, x.source.turn = .learned i answer) ∧
    x.target.committed.lifecycle = .needsReset

omit [Scalar α] in
theorem worked_snoc {i : Nat} {x : Transition (Engine α σ) (Move α)}
    (h : Worked (ts ++ [x]) i) : Worked ts i ∨ x.label = .work i := by
  obtain ⟨y, hy, hl⟩ := h
  rcases List.mem_append.1 hy with hy | hy
  · exact .inl ⟨y, hy, hl⟩
  · rw [List.mem_singleton.1 hy] at hl
    exact .inr hl

omit [Scalar α] in
theorem PutOut.mono {i : Nat} (h : PutOut ts i) (x : Transition (Engine α σ) (Move α)) :
    PutOut (ts ++ [x]) i := by
  obtain ⟨y, hy, h⟩ := h
  exact ⟨y, List.mem_append_left _ hy, h⟩

/-- Where a session has come to after a reset that found `n` tasks there, and before the next one
gets into the unit. The transitions are those since the reset. -/
structure Window (n : Nat) (ts : List (Transition (Engine α σ) (Move α))) (e : Engine α σ) :
    Prop where
  sound : e.Sound
  old : ∀ i < n, ∃ t, e.tasks[i]? = some t ∧ t.Done
  current : ∀ i, e.turn.task? = some i → n ≤ i
  worked : ∀ i, Worked ts i → n ≤ i ∧ ∃ t, e.tasks[i]? = some t ∧ ¬ t.job.IsReset ∧ t.GotIn
  resets : ∀ (i : Nat) (t : Task α σ), n ≤ i → e.tasks[i]? = some t → t.job.IsReset →
    ∀ outcome, t.stage ≠ .ended outcome
  /-- Only resets are sent off once a call was given up inside the unit, and the caller of that
  call puts the session out of service, unless it is just about to. -/
  strayed : ∀ (i : Nat) (t : Task α σ), n ≤ i → e.tasks[i]? = some t → ¬ t.job.IsReset → t.Strayed →
    (∀ (j : Nat) (u : Task α σ), i < j → e.tasks[j]? = some u → u.job.IsReset) ∧
      ((∃ answer, e.turn = .learned i answer) ∨
        (e.committed.lifecycle ≠ .ready ∧ PutOut ts i))

/-- A caller that has been told that its advance went astray puts the session out of service. -/
theorem conclude_strayed {t : Task α σ} {answer : Except (CallFailure α) (SignalMap α)}
    (told : t.told = some answer) (ht : t.Strayed) (hj : ¬ t.job.IsReset) :
    (e.conclude t.job answer).committed.lifecycle = .needsReset := by
  obtain ⟨failure, hf, hin⟩ := ht
  cases told.symm.trans hf
  cases job : t.job with
  | reset step => rw [job] at hj; exact absurd trivial hj
  | advance p latency =>
    change (e.committed.fail failure.inFlight).lifecycle = _
    rw [hin]
    rfl

/-- Within a window a session that is not ready does not become so. -/
theorem Window.not_ready {n : Nat} (h : Window n ts e) (hs : e.Step m e')
    (hl : e.committed.lifecycle ≠ .ready) : e'.committed.lifecycle ≠ .ready := by
  intro hl'
  rcases hs.ready h.sound.calm hl' with hr | ⟨i, t, outputs, turn, task, reset⟩
  · exact hl hr
  · have hi := h.current i (by rw [turn]; rfl)
    have told := h.sound.booked.learned i _ t turn task
    exact h.resets i t hi task reset _ ((h.sound.booked.legal i t task).of_ok told)

/-- The call that went astray in a window stays the last one but for resets. -/
theorem Window.strayed_step {n : Nat} (h : Window n ts e) (hs : e.Step m e') {i : Nat}
    {t : Task α σ} (hi : n ≤ i) (ht : e.tasks[i]? = some t) (hj : ¬ t.job.IsReset)
    (hstray : t.Strayed) :
    (∀ (j : Nat) (u : Task α σ), i < j → e'.tasks[j]? = some u → u.job.IsReset) ∧
      ((∃ answer, e'.turn = .learned i answer) ∨
        (e'.committed.lifecycle ≠ .ready ∧ PutOut (ts ++ [⟨e, m, e'⟩]) i)) := by
  obtain ⟨last, out⟩ := h.strayed i t hi ht hj hstray
  constructor
  · intro j u hij hu
    rcases (hs.effect h.sound.booked).origin hu with
      ⟨u₀, hu₀, rfl | next⟩ | ⟨-, gate, job, rfl, ready⟩
    · exact last j u hij hu₀
    · rw [next.job_eq]; exact last j u₀ hij hu₀
    · -- an advance is not sent off by a session that is out of service
      refine Classical.byContradiction fun hn => ?_
      rcases out with ⟨answer, turn⟩ | ⟨hl, -⟩
      · rw [turn] at gate; cases gate
      · exact hl (ready hn)
  · rcases out with ⟨answer, turn⟩ | ⟨hl, out⟩
    · rcases hs.learned turn with turn' | ⟨rfl, t', task, rfl⟩
      · exact .inl ⟨answer, turn'⟩
      · cases ht.symm.trans task
        have told := h.sound.booked.learned i answer t turn task
        have hl : (e.conclude t.job answer).committed.lifecycle = .needsReset :=
          conclude_strayed told hstray hj
        refine .inr ⟨by rw [hl]; exact fun h => (nomatch h), ?_⟩
        exact ⟨_, List.mem_append_right _ (List.mem_singleton.2 rfl), rfl, ⟨answer, turn⟩, hl⟩
    · exact .inr ⟨h.not_ready hs hl, out.mono _⟩

theorem window_step {n : Nat} (h : Window n ts e) (hs : e.Step m e')
    (reset : ∀ i t, m = .work i → e.tasks[i]? = some t → ¬ t.job.IsReset) :
    Window n (ts ++ [⟨e, m, e'⟩]) e' := by
  have hb := h.sound.booked
  have effect := hs.effect hb
  have sound : e'.Sound := ⟨booked_step hb hs, calm_step hb h.sound.calm hs⟩
  refine ⟨sound, ?_, ?_, ?_, ?_, ?_⟩
  · intro i hi
    obtain ⟨t, ht, hd⟩ := h.old i hi
    exact (done_step hb hs ht hd).2
  · intro i hi
    rcases hs.current hi with hi | rfl
    · exact h.current i hi
    · refine Nat.le_of_not_lt fun hn => ?_
      obtain ⟨t, ht, -⟩ := h.old e.tasks.length hn
      rw [List.getElem?_eq_none (Nat.le_refl _)] at ht
      cases ht
  · -- a task that has got in stays so, and the unit goes on with no other
    have keep {i t} (hi : n ≤ i) (ht : e.tasks[i]? = some t) (hj : ¬ t.job.IsReset)
        (hg : t.GotIn) : n ≤ i ∧ ∃ t, e'.tasks[i]? = some t ∧ ¬ t.job.IsReset ∧ t.GotIn := by
      obtain ⟨t', ht', rfl | next⟩ := effect.keeps ht
      · exact ⟨hi, t', ht', hj, hg⟩
      · exact ⟨hi, t', ht', by rw [next.job_eq]; exact hj, next.gotIn hg⟩
    intro i hi
    rcases worked_snoc hi with hi | rfl
    · obtain ⟨hn, t, ht, hj, hg⟩ := h.worked i hi
      exact keep hn ht hj hg
    · obtain ⟨t, ht, hin⟩ := hs.inside
      refine keep ?_ ht (reset i t rfl ht) (.inl hin)
      refine Nat.le_of_not_lt fun hn => ?_
      obtain ⟨u, hu, hd⟩ := h.old i hn
      cases ht.symm.trans hu
      exact hd.outside hin
  · intro i t' hi ht' hj outcome he
    rcases hs.ended ht' he with rfl | ⟨t, ht, he, job⟩
    · obtain ⟨t, ht, -⟩ := hs.inside
      obtain ⟨u, hu, rfl | next⟩ := effect.keeps ht
      · cases ht'.symm.trans hu
        exact reset i t' rfl ht hj
      · cases ht'.symm.trans hu
        exact reset i t rfl ht (next.job_eq ▸ hj)
    · exact h.resets i t hi ht (job ▸ hj) outcome he
  · intro i t' hi ht' hj hstray
    rcases strayed_origin hb sound.booked hs ht' hstray with ⟨answer, turn⟩ | ⟨t, ht, hst, job⟩
    · refine ⟨fun j u hij hu => ?_, .inl ⟨answer, turn⟩⟩
      have hc := sound.booked.current i (by rw [turn]; rfl)
      obtain ⟨hjl, -⟩ := List.getElem?_eq_some_iff.1 hu
      omega
    · exact h.strayed_step hs hi ht (job ▸ hj) hst

/-- Entering the outputs of a warm-up opens a window. -/
theorem Window.opened (h : e.Sound) {i : Nat} {t : Task α σ} {outputs : SignalMap α}
    (turn : e.turn = .learned i (.ok outputs)) (task : e.tasks[i]? = some t)
    (hs : e.Step .settle e') : Window e.tasks.length [] e' := by
  have done := done_of_learned h.booked h.calm turn task (by rw [turn]; trivial)
    (.inr (.inr ⟨_, (h.booked.legal i t task).of_ok (h.booked.learned i _ t turn task)⟩))
  have sound : e'.Sound := ⟨booked_step h.booked hs, calm_step h.booked h.calm hs⟩
  rcases hs.learned turn with hn | ⟨-, t', -, rfl⟩
  · cases hs with
    | @settle j u answer _ _ => cases hj : u.job <;> rw [hj] at hn <;> cases hn
  have tasks : (e.conclude t'.job (.ok outputs)).tasks = e.tasks := by cases t'.job <;> rfl
  have free : (e.conclude t'.job (.ok outputs)).turn = .free := by cases t'.job <;> rfl
  -- no task has been sent off yet
  have none {i t} (hi : e.tasks.length ≤ i)
      (ht : (e.conclude t'.job (.ok outputs)).tasks[i]? = some t) : False := by
    rw [tasks, List.getElem?_eq_none hi] at ht
    cases ht
  refine ⟨sound, ?_, ?_, ?_, ?_, ?_⟩
  · intro i hi
    rw [tasks]
    exact ⟨_, List.getElem?_eq_getElem hi, done i _ (List.getElem?_eq_getElem hi)⟩
  · rw [free]; exact fun i hi => nomatch hi
  · rintro i ⟨x, hx, -⟩; cases hx
  · exact fun i t hi ht => (none hi ht).elim
  · exact fun i t hi ht => (none hi ht).elim

theorem window_run {n : Nat} (h : Window n [] e₀) (hr : (lts scenario specs unit).Run e₀ ts e)
    (until_ : UntilReset ts) : Window n ts e := by
  refine hr.invariant (P := fun ts e => UntilReset ts → Window n ts e) (fun _ => h) ?_ until_
  intro ts e m e' ih hs hu
  have hts : UntilReset ts := fun x hx => hu x (List.mem_append_left _ hx)
  refine window_step (ih hts) hs fun i t hm ht => ?_
  exact hu ⟨e, m, e'⟩ (List.mem_append_right _ (List.mem_singleton.2 rfl)) i t hm ht

/-- What becomes of an advance that got the unit to go on. -/
structure Answered (ts : List (Transition (Engine α σ) (Move α))) (e : Engine α σ) (i : Nat)
    (t : Task α σ) : Prop where
  advance : ¬ t.job.IsReset
  /-- Its caller still waits, or was told how it ended, or gave it up. -/
  told : e.turn = .awaiting i ∨ t.Truthful ∨ t.Strayed
  /-- If it was given up, nothing later got the unit to go on, and its caller put the session out
  of service, unless it is just about to. -/
  last : t.Strayed → (∀ j, Worked ts j → j ≤ i) ∧
    ((∃ answer, e.turn = .learned i answer) ∨ PutOut ts i)

omit [Scalar α] in
theorem Window.answered {n : Nat} (h : Window n ts e) {i : Nat} (hi : Worked ts i) :
    n ≤ i ∧ ∃ t, e.tasks[i]? = some t ∧ Answered ts e i t := by
  obtain ⟨hn, t, ht, hj, hg⟩ := h.worked i hi
  refine ⟨hn, t, ht, hj, ?_, fun hst => ?_⟩
  · rcases (h.sound.booked.legal i t ht).gotIn_cases hg with untold | truthful | strayed
    · exact .inl (h.sound.booked.untold i t ht untold)
    · exact .inr (.inl truthful)
    · exact .inr (.inr strayed)
  · obtain ⟨last, out⟩ := h.strayed i t hn ht hj hst
    refine ⟨fun j hw => Nat.le_of_not_lt fun hij => ?_, out.imp_right And.right⟩
    obtain ⟨-, u, hu, hju, -⟩ := h.worked j hw
    exact hju (last j u hij hu)

/-! ## No stray calls -/

/-- What a session and its tasks promise in a state. -/
structure NoStrayCalls (M : LTS (Engine α σ) (Move α)) (e : Engine α σ) : Prop where
  /-- At most one task is inside the unit. -/
  one : ∀ (i j : Nat) (t u : Task α σ), e.tasks[i]? = some t → e.tasks[j]? = some u →
    t.Inside → u.Inside → i = j
  /-- The unit never goes on with a task whose limit passed while it was queued. -/
  queued : ∀ (i : Nat) (t : Task α σ) e₁ ts e', e.turn = .awaiting i → e.tasks[i]? = some t →
    t.phase = .queued → M.step e .expire e₁ → M.Run e₁ ts e' → ¬ Worked ts i
  /-- No task is inside the unit of a ready session on which no call is on its way. -/
  ready : e.committed.lifecycle = .ready → e.turn.Quiet →
    ∀ (i : Nat) (t : Task α σ), e.tasks[i]? = some t → ¬ t.Inside
  /-- And none of the tasks of such a session ever gets there. -/
  never : e.committed.lifecycle = .ready → e.turn.Quiet → ∀ ts e', M.Run e ts e' →
    ∀ i < e.tasks.length, ¬ Worked ts i ∧ ∃ t, e'.tasks[i]? = some t ∧ ¬ t.Inside
  /-- When a reset succeeds all calls that were given up inside the unit have ended. -/
  reset : ∀ (i : Nat) (t : Task α σ) outputs, e.turn = .learned i (.ok outputs) →
    e.tasks[i]? = some t → t.job.IsReset →
    ∀ (j : Nat) (u : Task α σ), e.tasks[j]? = some u → u.Strayed →
      ∃ outcome, u.stage = .ended outcome
  /-- From then until the next reset gets there, the unit goes on only with later advances. -/
  window : ∀ (i : Nat) (t : Task α σ) outputs e₁ ts e', e.turn = .learned i (.ok outputs) →
    e.tasks[i]? = some t → t.job.IsReset → M.step e .settle e₁ → M.Run e₁ ts e' → UntilReset ts →
    ∀ k, Worked ts k → e.tasks.length ≤ k ∧ ∃ u, e'.tasks[k]? = some u ∧ Answered ts e' k u

/-- In a session, whatever the order of the steps, no call that was given up touches the unit
behind the back of a ready session. -/
theorem noStrayCalls (hr : (lts scenario specs unit).Reachable e) :
    NoStrayCalls (lts scenario specs unit) e := by
  have sound : e.Sound := (sound_inductive scenario specs unit).reachable hr
  have booked := sound.booked
  refine ⟨?_, ?_, ?_, ?_, ?_, ?_⟩
  · rintro i j t u ht hu ⟨rest, hi⟩ ⟨rest', hj⟩
    have hlock := booked.lock i t ht (by rw [hi]; rfl)
    exact Option.some.inj (hlock.symm.trans (booked.lock j u hu (by rw [hj]; rfl)))
  · intro i t e₁ ts e' turn ht phase hs hrun ⟨x, hx, hl⟩
    have sound₁ : e₁.Sound := (sound_inductive scenario specs unit).step e _ e₁ sound hs
    obtain ⟨t₁, ht₁, hd⟩ := expired_done booked turn ht phase hs
    exact (done_run sound₁ ⟨t₁, ht₁, hd⟩ hrun).2.1 x hx hl
  · intro hl hq i t ht
    exact (sound.done_of_ready hl hq i t ht).outside
  · intro hl hq ts e' hrun i hi
    have ht : e.tasks[i]? = some e.tasks[i] := List.getElem?_eq_getElem hi
    obtain ⟨-, hw, t', ht', hd⟩ := done_run sound ⟨_, ht, sound.done_of_ready hl hq i _ ht⟩ hrun
    exact ⟨fun ⟨x, hx, hl⟩ => hw x hx hl, t', ht', hd.outside⟩
  · intro i t outputs turn task _ j u hu hst
    have hg : t.GotIn := .inr ⟨_, (booked.legal i t task).of_ok (booked.learned i _ t turn task)⟩
    have hd := done_of_learned booked sound.calm turn task (by rw [turn]; trivial) (.inr hg) j u hu
    exact (booked.legal j u hu).ended_of_strayed hst hd.outside
  · intro i t outputs e₁ ts e' turn task _ hs hrun hu k hk
    exact (window_run (.opened sound turn task hs) hrun hu).answered hk

/-- The warm-up of a tank takes too long. Its caller gives up while the task is inside the unit, and
the next reset waits behind it. -/
theorem noStrayCalls_hang :
    ∃ e : Engine Rat (ScriptedState Rat),
      (lts Sample.scenario [Sample.fill] (scriptedUnit Sample.metadata)).Reachable e ∧
      (∃ t, e.tasks[0]? = some t ∧ t.Inside ∧ t.Strayed) ∧ e.turn = .awaiting 1 ∧
      NoStrayCalls (lts Sample.scenario [Sample.fill] (scriptedUnit Sample.metadata)) e := by
  let M := lts Sample.scenario [Sample.fill] (scriptedUnit Sample.metadata)
  have opened : M.Reachable (ofSession (Sample.session (scriptedUnit Sample.metadata)
      (Sample.state {}))) := .of_init ⟨_, Sample.opened rfl _, rfl⟩
  have entered := opened.of_step (.enter rfl (.reset none))
  have planned := entered.of_step (.planReset rfl rfl)
  have locked := planned.of_step (.lock (i := 0) rfl rfl rfl)
  have inside := locked.of_step (.run (i := 0) rfl rfl (fun h => nomatch h))
  have expired := inside.of_step (.expire (i := 0) rfl rfl)
  have settled := expired.of_step (.settle (i := 0) rfl rfl)
  have queued := (settled.of_step (.enter rfl (.reset none))).of_step (.planReset rfl rfl)
  exact ⟨_, queued, ⟨_, rfl, ⟨_, rfl⟩, _, rfl, rfl⟩, rfl, noStrayCalls queued⟩
end BuildingEmulation.Engine
