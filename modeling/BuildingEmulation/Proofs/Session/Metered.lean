import BuildingEmulation.Proofs.Session.Commands
import BuildingEmulation.Proofs.Session.Tank

/-!
# What the metrics of a session tell

Counters, histogram and gauges are moved at different places of a call: the histogram before the
commit, the counters by a classification of errors after it, the gauges on every reset but only on
those advances that succeed. What they have in common is the history of the calls: every call is
counted once, by how it ended; every exchange that gave outputs was measured once; and since no
other call moves the clock or the log, the gauges stay with them from the first reset on.

Results:
* `Step.metrics_eq`: what a call makes of the metrics is a function of the call and its answer.
* `Change.outcome`: the outcome that an answer is counted as tells whether the model was asked.
* `metered`: along every run of every session.
-/
namespace BuildingEmulation

open Metrics (Outcome OutcomeCounts SessionMetrics)
open Scalar (Extended)

variable {α σ : Type}

/-! ## Calls that are counted -/

/-- The kinds of calls that are counted. -/
inductive CountedCall
  | advance
  | reset
  deriving DecidableEq

/-- The counts for a kind of calls. -/
def Metrics.SessionMetrics.counts (m : SessionMetrics α) : CountedCall → OutcomeCounts
  | .advance => m.advances
  | .reset => m.resets

namespace SessionEvent

/-- The outcome that a call of a kind is counted as. -/
def outcome? : CountedCall → SessionEvent α → Option Outcome
  | .advance, advance _ _ answer => some (outcomeOf answer)
  | .reset, reset _ answer => some (outcomeOf answer)
  | _, _ => none

/-- An advance whose row the log did not take. -/
def uncommitted : SessionEvent α → Bool
  | advance _ _ (.error (.commit _)) => true
  | _ => false

/-- An advance that was answered with a report. -/
def advanced : SessionEvent α → Bool
  | advance _ _ (.ok _) => true
  | _ => false

end SessionEvent

/-- Refused before the model was asked: for the lifecycle, an input or a step. -/
def SessionError.IsRefusal (e : SessionError α) : Prop :=
  e = .notReady ∨ e = .scenarioEnded ∨ (∃ name fault, e = .invalidInput name fault) ∨
    ∃ fault, e = .invalidStep fault

variable [Scalar α]

def Intent.refused : Intent α → Bool
  | refuse _ => true
  | _ => false

namespace Session

/-- The session answers a call without asking the model. -/
def refuses (s : Session α σ) (e : SessionEvent α) : Bool :=
  e.call?.any fun (request, _) => (request.intent s.model.registry s.committed).refused

/-- The model gave outputs to a call. -/
def exchanges (s : Session α σ) : SessionEvent α → Bool
  | .advance _ inputs _ =>
    match s.committed.plan s.model.registry inputs with
    | .error _ => false
    | .ok p => (s.exchange p).2.isOk
  | _ => false

/-- How a call ended: with the report that was asked for, with a refusal, or otherwise. -/
def ending (t : Transition (Session α σ) (SessionEvent α)) : Outcome :=
  if t.label.succeeds then .ok else if t.source.refuses t.label then .rejected else .failed

end Session

/-- The metrics after a call that has led to a committed state. -/
def SessionEvent.metered (c : Committed α) (m : SessionMetrics α) : SessionEvent α → SessionMetrics α
  | .advance latency _ (.ok _) =>
    ((m.observeStep (secondsOf latency)).recordAdvance .ok).setProgress c.clock.time c.results.size
  | .advance latency _ (.error (.commit _)) =>
    (m.observeStep (secondsOf latency)).recordAdvance .failed
  | .advance _ _ (.error e) => m.recordAdvance (outcomeOf (.error e : Except _ Unit))
  | .reset _ answer =>
    (m.recordReset (outcomeOf answer)).setProgress c.clock.time c.results.size
  | .setStep _ _ | .release => m

namespace SessionEvent

variable (e : SessionEvent α) (c : Committed α) (m : SessionMetrics α)

theorem counts_metered (kind : CountedCall) :
    (e.metered c m).counts kind =
      (e.outcome? kind).elim (m.counts kind) (m.counts kind).record := by
  cases kind <;> cases e with
  | advance latency inputs answer =>
    cases answer with
    | ok report => rfl
    | error error => cases error <;> rfl
  | _ => rfl

theorem stepSeconds_metered : (e.metered c m).stepSeconds.count =
    m.stepSeconds.count + if e.advanced || e.uncommitted then 1 else 0 := by
  cases e with
  | advance latency inputs answer =>
    cases answer with
    | ok report => rfl
    | error error => cases error <;> rfl
  | _ => rfl

theorem advances_metered : (e.metered c m).advances.ok =
    m.advances.ok + if e.advanced then 1 else 0 := by
  cases e with
  | advance latency inputs answer =>
    cases answer with
    | ok report => rfl
    | error error => cases error <;> rfl
  | _ => rfl

omit [Scalar α] in
theorem not_uncommitted (h : e.advanced = true) : e.uncommitted = false := by
  cases e with
  | advance latency inputs answer =>
    cases answer with
    | ok report => rfl
    | error error => cases h
  | _ => rfl

/-- Resets, and advances that succeed, publish how far the session has come. -/
theorem published_metered (h : (e.outcome? .reset).isSome ∨ e.advanced = true) :
    (e.metered c m).simulationTime = c.clock.time ∧
      (e.metered c m).resultRows = c.results.size := by
  cases e with
  | advance latency inputs answer =>
    cases answer with
    | ok report => exact ⟨rfl, rfl⟩
    | error error => rcases h with h | h <;> cases h
  | reset => exact ⟨rfl, rfl⟩
  | setStep | release => rcases h with h | h <;> cases h

theorem unpublished_metered (hr : e.outcome? .reset = none) (ha : e.advanced = false) :
    (e.metered c m).simulationTime = m.simulationTime ∧
      (e.metered c m).resultRows = m.resultRows := by
  cases e with
  | advance latency inputs answer =>
    cases answer with
    | ok report => cases ha
    | error error => cases error <;> exact ⟨rfl, rfl⟩
  | reset => cases hr
  | setStep | release => exact ⟨rfl, rfl⟩

end SessionEvent

namespace Session

variable (s : Session α σ)

theorem advance_metrics (latency : Nat) (inputs : SignalMap α) :
    (s.advance latency inputs).1.metrics =
      s.metrics.map fun m => SessionEvent.metered (s.advance latency inputs).1.committed m
        (.advance latency inputs (s.advance latency inputs).2) := by
  unfold advance advanceQuietly
  rcases s.committed.plan_cases s.model.registry inputs with ⟨hr, hv, hp⟩ | ⟨e, hp, he⟩
  · rw [hp]
    cases hw : s.worker.run s.scenario.stepLimit
        (s.model.exchange inputs s.committed.clock.plan) with
    | mk w answer =>
      have hx : s.exchange (s.committed.planned inputs) = ({ s with worker := w }, answer) := by
        simp only [exchange, Committed.planned, hw]
      simp only [hx]
      cases answer with
      | error failure => rfl
      | ok outputs =>
        simp only [settle, Committed.settleAdvance]
        rcases s.committed.commit_cases inputs outputs latency with ⟨fault, -, hc⟩ | ⟨-, hc⟩
        · simp only [hc, count, measure, Option.map_map]
          rfl
        · simp only [hc, count, publish, measure, Option.map_map]
          rfl
  · rw [hp]
    rcases he with rfl | rfl | ⟨name, fault, rfl⟩ <;> rfl

theorem reset_metrics (step : Option α) :
    (s.reset step).1.metrics =
      s.metrics.map fun m => SessionEvent.metered (s.reset step).1.committed m
        (.reset step (s.reset step).2) := by
  have hm : (s.resetQuietly step).1.metrics = s.metrics := by
    unfold resetQuietly
    split <;> rfl
  simp only [reset, publish, measure, hm, Option.map_map]
  rfl

variable {s} {s' : Session α σ} {e : SessionEvent α}

/-- What a call makes of the metrics is a function of the call and its answer. -/
theorem Step.metrics_eq (h : s.Step e s') :
    s'.metrics = s.metrics.map fun m => e.metered s'.committed m := by
  cases e with
  | advance latency inputs answer =>
    have hm := advance_metrics s latency inputs
    rwa [show s.advance latency inputs = (s', answer) from h] at hm
  | reset step answer =>
    have hm := reset_metrics s step
    rwa [show s.reset step = (s', answer) from h] at hm
  | setStep step answer =>
    have hs : (s.setStep step).1 = s' := congrArg Prod.fst h
    subst hs
    unfold setStep
    split <;> exact Option.map_id'.symm
  | release => cases h; exact Option.map_id'.symm

/-! ## How calls end -/

theorem refuses_eq {request : Request α} {reply : Reply α} (he : e.call? = some (request, reply)) :
    s.refuses e = (request.intent s.model.registry s.committed).refused := by
  rw [refuses, he, Option.any_some]

theorem refuses_of_ending {t : Transition (Session α σ) (SessionEvent α)}
    (h : ending t = .rejected) : t.source.refuses t.label = true := by
  unfold ending at h
  split at h
  · cases h
  · split at h
    · next hr => exact hr
    · cases h

theorem exchanges_of_run {latency : Nat} {inputs : SignalMap α}
    {answer : Except (SessionError α) (AdvanceReport α)} {w : Worker α σ}
    {told : Except (CallFailure α) (SignalMap α)} (ready : s.committed.lifecycle = .ready)
    (valid : Committed.checkInputs s.model.registry inputs.entries = .ok ())
    (run : s.worker.run s.scenario.stepLimit
      (s.model.exchange inputs s.committed.clock.plan) = (w, told)) :
    s.exchanges (.advance latency inputs answer) = told.isOk := by
  simp only [exchanges, Committed.plan_ready ready valid, exchange, Committed.planned, run]

/-- The outcome that an answer is counted as tells whether the model was asked. -/
theorem Change.outcome {w : Worker α σ} {c : Committed α} (h : Change s e w c)
    {kind : CountedCall} {o : Outcome} (ho : e.outcome? kind = some o) :
    ending ⟨s, e, s'⟩ = o := by
  unfold ending
  cases kind <;> cases h <;> cases ho
  case advance.refused plan reason =>
    rw [refuses_eq rfl, intent_advance_error plan]
    rcases reason with rfl | rfl | ⟨name, fault, rfl⟩ <;> rfl
  case advance.failed ready valid _ =>
    rw [refuses_eq rfl, intent_advance_ok (Committed.plan_ready ready valid)]
    rfl
  case advance.uncommitted ready valid _ _ =>
    rw [refuses_eq rfl, intent_advance_ok (Committed.plan_ready ready valid)]
    rfl
  case reset.resetRefused valid =>
    rw [refuses_eq rfl, intent_reset_error valid]
    rfl
  case reset.resetFailed valid _ =>
    rw [refuses_eq rfl, intent_reset_ok valid]
    rfl
  all_goals rfl

/-- A call that is counted is a refusal by the error that it is answered with. -/
theorem Change.ending_rejected {w : Worker α σ} {c : Committed α} (h : Change s e w c)
    {kind : CountedCall} {o : Outcome} (ho : e.outcome? kind = some o) :
    o = .rejected ↔ ∃ error, e.error? = some error ∧ error.IsRefusal := by
  cases kind <;> cases h <;> cases ho
  case advance.refused plan reason =>
    rcases reason with rfl | rfl | ⟨name, fault, rfl⟩
    · exact ⟨fun _ => ⟨_, rfl, .inl rfl⟩, fun _ => rfl⟩
    · exact ⟨fun _ => ⟨_, rfl, .inr (.inl rfl)⟩, fun _ => rfl⟩
    · exact ⟨fun _ => ⟨_, rfl, .inr (.inr (.inl ⟨name, fault, rfl⟩))⟩, fun _ => rfl⟩
  case reset.resetRefused fault valid =>
    exact ⟨fun _ => ⟨_, rfl, .inr (.inr (.inr ⟨fault, rfl⟩))⟩, fun _ => rfl⟩
  all_goals
    refine ⟨nofun, ?_⟩
    rintro ⟨error, he, hr⟩
    cases he <;> rcases hr with hr | hr | ⟨_, _, hr⟩ | ⟨_, hr⟩ <;> cases hr

/-- A refusal changes nothing. -/
theorem Change.refused_same {w : Worker α σ} {c : Committed α} (h : Change s e w c)
    (hr : s.refuses e = true) : w = s.worker ∧ c = s.committed := by
  cases h with
  | refused | resetRefused | stepRefused => exact ⟨rfl, rfl⟩
  | failed ready valid | uncommitted ready valid | advanced ready valid =>
    rw [refuses_eq rfl, intent_advance_ok (Committed.plan_ready ready valid)] at hr
    cases hr
  | resetFailed valid | begun valid =>
    rw [refuses_eq rfl, intent_reset_ok valid] at hr
    cases hr
  | stepSet | released => cases hr

/-- The model has given outputs to the advances that were committed or refused by the log. -/
theorem Change.exchanges_eq {w : Worker α σ} {c : Committed α} (h : Change s e w c) :
    s.exchanges e = (e.advanced || e.uncommitted) := by
  cases h with
  | refused plan reason =>
    simp only [exchanges, plan]
    rcases reason with rfl | rfl | ⟨name, fault, rfl⟩ <;> rfl
  | failed ready valid run | uncommitted ready valid run | advanced ready valid run =>
    rw [exchanges_of_run ready valid run]
    rfl
  | _ => rfl

/-- Nothing but a reset or an advance that succeeds moves the clock or the log. -/
theorem Change.progress {w : Worker α σ} {c : Committed α} (h : Change s e w c)
    (hr : e.outcome? .reset = none) (ha : e.advanced = false) :
    c.clock.time = s.committed.clock.time ∧ c.results = s.committed.results := by
  cases h with
  | failed =>
    obtain ⟨hc, -, hl, -⟩ := s.committed.fail_fields _
    rw [hc, hl]
    exact ⟨rfl, rfl⟩
  | advanced => cases ha
  | resetFailed | begun => cases hr
  | _ => exact ⟨rfl, rfl⟩

end Session

/-! ## What metrics say of a run -/

namespace Session

/-- The calls of a kind, in order. -/
def callsOf (kind : CountedCall) (ts : List (Transition (Session α σ) (SessionEvent α))) :
    List (Transition (Session α σ) (SessionEvent α)) :=
  ts.filter fun t => (t.label.outcome? kind).isSome

section

omit [Scalar α]

variable {kind : CountedCall} (ts : List (Transition (Session α σ) (SessionEvent α)))
  {t : Transition (Session α σ) (SessionEvent α)}

theorem callsOf_snoc_some {o : Outcome} (h : t.label.outcome? kind = some o) :
    callsOf kind (ts ++ [t]) = callsOf kind ts ++ [t] := by
  simp [callsOf, List.filter_append, h]

theorem callsOf_snoc_none (h : t.label.outcome? kind = none) :
    callsOf kind (ts ++ [t]) = callsOf kind ts := by
  simp [callsOf, List.filter_append, h]

/-- What holds of every call of a kind, and of one more if it is of the kind, holds of all. -/
theorem forall_callsOf_snoc {P : Transition (Session α σ) (SessionEvent α) → Prop}
    (h : ∀ t ∈ callsOf kind ts, P t) (ht : ∀ o, t.label.outcome? kind = some o → P t) :
    ∀ u ∈ callsOf kind (ts ++ [t]), P u := by
  intro u hu
  cases ho : t.label.outcome? kind with
  | none =>
    rw [callsOf_snoc_none ts ho] at hu
    exact h u hu
  | some o =>
    rw [callsOf_snoc_some ts ho] at hu
    rcases List.mem_append.1 hu with hu | hu
    · exact h u hu
    · rw [List.mem_singleton.1 hu]
      exact ht o ho

end

/-- The metrics tell what has happened in a run, and where the session is. -/
structure Metered (ts : List (Transition (Session α σ) (SessionEvent α))) (s : Session α σ)
    (m : SessionMetrics α) : Prop where
  total : ∀ kind, (m.counts kind).total = (callsOf kind ts).length
  counts : ∀ kind o, (m.counts kind).get o = (callsOf kind ts).countP (ending · = o)
  /-- What is counted as rejected has touched neither the model nor the state. -/
  untouched : ∀ kind, ∀ t ∈ callsOf kind ts, ending t = .rejected →
    t.target.worker = t.source.worker ∧ t.target.committed = t.source.committed
  reasons : ∀ kind, ∀ t ∈ callsOf kind ts,
    (ending t = .rejected ↔ ∃ e, t.label.error? = some e ∧ e.IsRefusal)
  measured : m.stepSeconds.count = ts.countP fun t => t.source.exchanges t.label
  answered : m.stepSeconds.count = m.advances.ok + ts.countP (·.label.uncommitted)
  published : callsOf .reset ts ≠ [] →
    m.simulationTime = s.committed.clock.time ∧ m.resultRows = s.committed.results.size

theorem metered_fresh (s : Session α σ) : Metered [] s .fresh where
  total kind := by cases kind <;> rfl
  counts kind o := by cases kind <;> cases o <;> rfl
  untouched _ _ h := nomatch h
  reasons _ _ h := nomatch h
  measured := rfl
  answered := rfl
  published h := absurd rfl h

variable {ts : List (Transition (Session α σ) (SessionEvent α))} {s s' : Session α σ}
  {e : SessionEvent α} {m : SessionMetrics α}

theorem Metered.snoc (h : Metered ts s m) (hs : s.Step e s') :
    Metered (ts ++ [⟨s, e, s'⟩]) s' (e.metered s'.committed m) := by
  have hc := hs.change
  have hends (kind : CountedCall) (o : Outcome) (ho : e.outcome? kind = some o) :
      ending ⟨s, e, s'⟩ = o := hc.outcome ho
  constructor
  case total =>
    intro kind
    rw [e.counts_metered]
    cases ho : e.outcome? kind with
    | none =>
      rw [callsOf_snoc_none ts ho]
      exact h.total kind
    | some o =>
      rw [callsOf_snoc_some ts ho, List.length_append, ← h.total kind]
      exact OutcomeCounts.total_record _ o
  case counts =>
    intro kind o
    rw [e.counts_metered]
    cases ho : e.outcome? kind with
    | none =>
      rw [callsOf_snoc_none ts ho]
      exact h.counts kind o
    | some o' =>
      rw [callsOf_snoc_some ts ho, List.countP_append, ← h.counts kind o, List.countP_singleton,
        hends kind o' ho]
      simpa [eq_comm] using OutcomeCounts.get_record (m.counts kind) o' o
  case untouched =>
    intro kind
    refine forall_callsOf_snoc ts (h.untouched kind) fun o ho hr => ?_
    exact hc.refused_same (refuses_of_ending hr)
  case reasons =>
    intro kind
    refine forall_callsOf_snoc ts (h.reasons kind) fun o ho => ?_
    rw [hends kind o ho]
    exact hc.ending_rejected ho
  case measured =>
    rw [e.stepSeconds_metered, List.countP_append, List.countP_singleton, h.measured,
      hc.exchanges_eq]
  case answered =>
    rw [e.stepSeconds_metered, e.advances_metered, List.countP_append, List.countP_singleton,
      h.answered]
    cases ha : e.advanced with
    | true =>
      -- what was answered with a report was not refused by the log
      rw [e.not_uncommitted ha]
      simp only [Bool.true_or, if_true, Bool.false_eq_true, if_false]
      omega
    | false => simp only [Bool.false_or, Bool.false_eq_true, if_false, Nat.add_zero, Nat.add_assoc]
  case published =>
    intro hne
    by_cases hp : (e.outcome? .reset).isSome ∨ e.advanced = true
    · exact e.published_metered _ _ hp
    · obtain ⟨hr, ha⟩ := not_or.1 hp
      have hr := Option.not_isSome_iff_eq_none.1 hr
      have ha := Bool.eq_false_of_not_eq_true ha
      rw [callsOf_snoc_none ts hr] at hne
      obtain ⟨ht, hl⟩ := hc.progress hr ha
      obtain ⟨htime, hrows⟩ := e.unpublished_metered s'.committed m hr ha
      rw [htime, hrows, ht, hl]
      exact h.published hne

variable {scenario : Scenario α} {specs : List (KpiSpec α)} {unit : EmulationUnit α σ}

theorem Opened.withMetrics {s : Session α σ} (h : Opened scenario specs unit s) :
    Opened scenario specs unit s.withMetrics := by
  obtain ⟨state, s₀, hs, rfl | rfl⟩ := h
  all_goals exact ⟨state, _, hs, .inr rfl⟩

/-- Whatever a session has been through, from when metrics were attached to it they tell what its
calls have come to and how far it is. -/
theorem metered {s₀ : Session α σ} (hr : (lts scenario specs unit).Run s₀.withMetrics ts s) :
    ∃ m, s.metrics = some m ∧ Metered ts s m := by
  refine hr.invariant (P := fun ts s => ∃ m, s.metrics = some m ∧ Metered ts s m)
    ⟨.fresh, rfl, metered_fresh _⟩ ?_
  rintro ts s e s' ⟨m, hm, h⟩ hs
  refine ⟨e.metered s'.committed m, ?_, h.snoc hs⟩
  rw [Step.metrics_eq hs, hm, Option.map_some]

/-- A tank is advanced before its first reset and once more than there are steps, and is asked for a
step of no length in the end. -/
theorem metered_tank :
    ∃ (s₀ s : Session Extended (ScriptedState Extended))
      (ts : List (Transition (Session Extended (ScriptedState Extended)) (SessionEvent Extended)))
      (m : SessionMetrics Extended),
      (lts Tank.scenario [Tank.fill] (scriptedUnit Tank.metadata)).init s₀.withMetrics ∧
      (lts Tank.scenario [Tank.fill] (scriptedUnit Tank.metadata)).Run s₀.withMetrics ts s ∧
      s.metrics = some m ∧ Metered ts s m ∧ m.advances = ⟨3, 2, 0⟩ ∧ m.resets = ⟨1, 1, 0⟩ ∧
      m.stepSeconds.count = 3 ∧ m.simulationTime = .finite 10 ∧ m.resultRows = 3 := by
  let s₀ := Tank.session (scriptedUnit Tank.metadata) (Tank.state {})
  let M := lts Tank.scenario [Tank.fill] (scriptedUnit Tank.metadata)
  have h₀ : M.init s₀.withMetrics := (Tank.opened rfl _).withMetrics
  let early := (s₀.withMetrics.advance 5 .empty).1
  let ready := (early.reset none).1
  let first := (ready.advance 5 .empty).1
  let second := (first.advance 5 .empty).1
  let ended := (second.advance 5 .empty).1
  let late := (ended.advance 5 .empty).1
  let s := (late.reset (some (.finite 0))).1
  have hr : M.Run s₀.withMetrics _ s :=
    ((((((LTS.Run.nil.snoc (step_advance s₀.withMetrics 5 .empty)).snoc (step_reset early none)).snoc
      (step_advance ready 5 .empty)).snoc (step_advance first 5 .empty)).snoc
      (step_advance second 5 .empty)).snoc (step_advance ended 5 .empty)).snoc
      (step_reset late (some (.finite 0)))
  obtain ⟨m, hm, h⟩ := metered hr
  have told : s.metrics.map (fun m =>
      (m.advances, m.resets, m.stepSeconds.count, m.simulationTime, m.resultRows)) =
      some (⟨3, 2, 0⟩, ⟨1, 1, 0⟩, 3, .finite 10, 3) := by decide +kernel
  rw [hm, Option.map_some, Option.some.injEq] at told
  simp only [Prod.mk.injEq] at told
  exact ⟨s₀, s, _, m, h₀, hr, hm, h, told⟩

end Session

end BuildingEmulation
