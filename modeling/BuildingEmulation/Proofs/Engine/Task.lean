import BuildingEmulation.Proofs.Engine.Basic

/-!
# The life of a task

A task and its caller share the phase, and each changes it once: the task when it goes into the
unit, the caller when it stops waiting. Whoever comes first decides what the other one finds.
`Task.Legal` lists what can come of it.

Results:
* `Next.legal`: nothing else can.
* `Next.done`: a task that nobody waits for, and that is not inside the unit, never gets there.
-/
namespace BuildingEmulation.Task

variable {α σ : Type}

/-- One change of a task. -/
inductive Next (t : Task α σ) : Task α σ → Prop
  | lock (waiting : t.stage = .waiting) : Next t { t with stage := .locked }
  | run {rest} (locked : t.stage = .locked) (phase : t.phase ≠ .abandoned) :
      Next t { t with phase := .running, stage := .inside rest }
  | skip (locked : t.stage = .locked) (phase : t.phase = .abandoned) :
      Next t { t with stage := .skipped }
  | block {rest rest'} (inside : t.stage = .inside rest) : Next t { t with stage := .inside rest' }
  | finish {rest outcome} (inside : t.stage = .inside rest) :
      Next t { t with stage := .ended outcome }
  | hear {limit answer} (untold : t.told = none) (ended : t.answer? limit = some answer) :
      Next t { t with told := some answer }
  | expire {limit} (untold : t.told = none) :
      Next t { t with phase := .abandoned, told := some (.error (.timedOut limit t.phase)) }

/-- The task has not gone into the unit. -/
def Outside (stage : Stage α σ) : Prop := stage = .waiting ∨ stage = .locked

/-- What can have become of a task and its caller. -/
inductive Legal : Task α σ → Prop
  | outside {job stage} (h : Outside stage) : Legal ⟨job, .queued, stage, none⟩
  | inside {job rest} : Legal ⟨job, .running, .inside rest, none⟩
  | ended {job outcome} : Legal ⟨job, .running, .ended outcome, none⟩
  /-- The caller waited until the task had ended. -/
  | heard {job outcome} :
      Legal ⟨job, .running, .ended outcome, some (outcome.answer .running)⟩
  /-- The limit passed first, and the task had not got into the unit. -/
  | abandoned {job stage limit} (h : Outside stage) :
      Legal ⟨job, .abandoned, stage, some (.error (.timedOut limit .queued))⟩
  | skipped {job limit} :
      Legal ⟨job, .abandoned, .skipped, some (.error (.timedOut limit .queued))⟩
  /-- The limit passed first, and the task had got into the unit. -/
  | runaway {job rest limit} :
      Legal ⟨job, .abandoned, .inside rest, some (.error (.timedOut limit .running))⟩
  | returned {job outcome limit} :
      Legal ⟨job, .abandoned, .ended outcome, some (.error (.timedOut limit .running))⟩

theorem fresh_legal (job : Job α) : (fresh job : Task α σ).Legal := .outside (.inl rfl)

variable {t t' : Task α σ}

theorem Next.job_eq (h : t.Next t') : t'.job = t.job := by cases h <;> rfl

/-- A caller is told once. -/
theorem Next.told (h : t.Next t') (hn : t.told ≠ none) : t'.told = t.told := by
  cases h with
  | hear untold | expire untold => exact absurd untold hn
  | _ => rfl

theorem Next.legal (h : t.Next t') (hl : t.Legal) : t'.Legal := by
  cases h with
  | lock waiting =>
    cases hl with
    | outside => exact .outside (.inr rfl)
    | abandoned => exact .abandoned (.inr rfl)
    | _ => cases waiting
  | run locked phase =>
    cases hl with
    | outside => exact .inside
    | abandoned => exact absurd rfl phase
    | _ => cases locked
  | skip locked phase =>
    cases hl with
    | outside => cases phase
    | abandoned => exact .skipped
    | _ => cases locked
  | block inside =>
    cases hl with
    | inside => exact .inside
    | runaway => exact .runaway
    | outside h | abandoned h => rcases h with rfl | rfl <;> cases inside
    | _ => cases inside
  | finish inside =>
    cases hl with
    | inside => exact .ended
    | runaway => exact .returned
    | outside h | abandoned h => rcases h with rfl | rfl <;> cases inside
    | _ => cases inside
  | hear untold ended =>
    cases hl with
    | outside h => rcases h with rfl | rfl <;> cases ended
    | inside => cases ended
    | ended => cases ended; exact .heard
    | _ => cases untold
  | expire untold =>
    cases hl with
    | outside h => exact .abandoned h
    | inside => exact .runaway
    | ended => exact .returned
    | _ => cases untold

/-- What the unit does with a task that is inside it. -/
theorem Next.work {rest} (inside : t.stage = .inside rest)
    (p : Progress σ (ModelError α) (SignalMap α)) : t.Next { t with stage := .ofProgress p } := by
  cases p with
  | blocked s resume => exact .block inside
  | returned | failed | aborted => exact .finish inside

/-- Nobody waits for the task, and it is not inside the unit. -/
structure Done (t : Task α σ) : Prop where
  told : t.told ≠ none
  outside : ¬ t.Inside

theorem not_inside {stage : Stage α σ} (h : Outside stage) (rest) : stage ≠ .inside rest := by
  rcases h with rfl | rfl <;> exact fun h => nomatch h

theorem Next.done (h : t.Next t') (hl : t.Legal) (hd : t.Done) : t'.Done := by
  obtain ⟨told, outside⟩ := hd
  cases h with
  | lock => exact ⟨told, fun ⟨_, h⟩ => nomatch h⟩
  | run locked phase =>
    cases hl with
    | outside => exact absurd rfl told
    | abandoned => exact absurd rfl phase
    | _ => cases locked
  | skip => exact ⟨told, fun ⟨_, h⟩ => nomatch h⟩
  | block inside | finish inside => exact absurd ⟨_, inside⟩ outside
  | hear untold | expire untold => exact absurd untold told

/-- The task has got into the unit. -/
def GotIn (t : Task α σ) : Prop := t.Inside ∨ ∃ outcome, t.stage = .ended outcome

theorem not_gotIn (h : Outside t.stage ∨ t.stage = .skipped) : ¬ t.GotIn := by
  rintro (⟨rest, hr⟩ | ⟨outcome, hr⟩) <;> rw [hr] at h <;> rcases h with (h | h) | h <;> cases h

theorem Next.gotIn (h : t.Next t') (hg : t.GotIn) : t'.GotIn := by
  cases h with
  | lock waiting => exact absurd hg (not_gotIn (.inl (.inl waiting)))
  | skip locked => exact absurd hg (not_gotIn (.inl (.inr locked)))
  | run | block => exact .inl ⟨_, rfl⟩
  | finish => exact .inr ⟨_, rfl⟩
  | hear | expire => exact hg

/-- The call was inside the unit when its caller stopped waiting, or was lost there. -/
def Strayed (t : Task α σ) : Prop :=
  ∃ failure, t.told = some (.error failure) ∧ failure.inFlight = true

/-- The caller was told how the task has ended. -/
def Truthful (t : Task α σ) : Prop :=
  ∃ outcome, t.stage = .ended outcome ∧ t.told = some (outcome.answer t.phase)

/-- A task whose caller got its outputs has ended with them. -/
theorem Legal.of_ok {outputs : SignalMap α} (hl : t.Legal) (h : t.told = some (.ok outputs)) :
    t.stage = .ended (.returned outputs) := by
  cases hl with
  | @heard job outcome =>
    cases outcome with
    | returned => cases h; rfl
    | failed | aborted => cases h
  | _ => cases h

/-- A task whose caller got an answer that is not in flight is not inside the unit. -/
theorem Legal.outside_of_settled {failure : CallFailure α} (hl : t.Legal)
    (h : t.told = some (.error failure)) (hf : failure.inFlight = false) : ¬ t.Inside := by
  rintro ⟨rest, hr⟩
  cases hl with
  | runaway => cases h; cases hf
  | outside ho | abandoned ho => exact not_inside ho rest hr
  | inside => cases h
  | _ => cases hr

/-- A task that is queued is not inside the unit. -/
theorem Legal.outside_of_queued (hl : t.Legal) (h : t.phase = .queued) : ¬ t.Inside := by
  rintro ⟨rest, hr⟩
  cases hl with
  | outside ho => exact not_inside ho rest hr
  | _ => cases h

/-- A task that was given up inside the unit, and is not there any more, has ended. -/
theorem Legal.ended_of_strayed (hl : t.Legal) (h : t.Strayed) (ho : ¬ t.Inside) :
    ∃ outcome, t.stage = .ended outcome := by
  obtain ⟨failure, hf, hin⟩ := h
  cases hl with
  | heard | returned => exact ⟨_, rfl⟩
  | runaway => exact absurd ⟨_, rfl⟩ ho
  | abandoned | skipped => cases hf; cases hin
  | outside | inside | ended => cases hf

/-- A task that got into the unit is waited for, or told the truth, or was given up inside. -/
theorem Legal.gotIn_cases (hl : t.Legal) (h : t.GotIn) :
    t.told = none ∨ t.Truthful ∨ t.Strayed := by
  cases hl with
  | inside | ended => exact .inl rfl
  | @heard job outcome => exact .inr (.inl ⟨outcome, rfl, rfl⟩)
  | runaway | returned => exact .inr (.inr ⟨_, rfl, rfl⟩)
  | outside ho | abandoned ho => exact absurd h (not_gotIn (.inl ho))
  | skipped => exact absurd h (not_gotIn (.inr rfl))

end BuildingEmulation.Task
