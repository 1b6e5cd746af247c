import BuildingEmulation.Proofs.Engine.Basic
import Mathlib.Data.List.Induction

/-!
# Calls one after the other

What a call changes and answers depends on the committed state that it finds, on its request, and
on what its caller was told of the model call if it made one. `Standing.call` is that function, made
of the same parts as the calls of a session, and `Served` is a sequence of such calls.

Results:
* `Session.Step.call`: every call of a session is one of these.
* `Served.rows`: after a reset there is a row for every advance that succeeds, and for nothing else.
-/
namespace BuildingEmulation

variable {α σ : Type}

/-- The answer to a call. -/
inductive Reply (α : Type)
  | reset (answer : Except (SessionError α) (ResetReport α))
  | advance (answer : Except (SessionError α) (AdvanceReport α))
  | setStep (answer : Except (SessionError α) α)

/-- What a caller is told of its model call. -/
abbrev Told (α : Type) := Except (CallFailure α) (SignalMap α)

/-- What a call is about to do once it has looked at the committed state. -/
inductive Intent (α : Type)
  | refuse (reply : Reply α)
  | send (job : Job α)
  | set (step : α)

/-- What the calls of a session change. -/
structure Standing (α : Type) where
  committed : Committed α
  /-- How many sessions have begun. -/
  begun : Nat

/-- A call that has been answered, with what its caller was told if it made a model call. -/
structure Settlement (α : Type) where
  caller : Nat
  request : Request α
  told : Option (Told α)
  reply : Reply α

def Request.isReset : Request α → Bool
  | .reset _ => true
  | _ => false

/-- An advance has succeeded. -/
def Reply.advanced : Reply α → Bool
  | .advance (.ok _) => true
  | _ => false

variable [Scalar α]

def Request.intent (r : Registry α) (c : Committed α) : Request α → Intent α
  | .reset step =>
    match Committed.checkStep step with
    | .error e => .refuse (.reset (.error e))
    | .ok () => .send (.reset step)
  | .advance latency inputs =>
    match c.plan r inputs with
    | .error e => .refuse (.advance (.error e))
    | .ok p => .send (.advance p latency)
  | .setStep step => .set step

namespace Standing

/-- What became of a job is entered. -/
def conclude (s : Standing α) (job : Job α) (told : Told α) : Standing α × Reply α :=
  match job with
  | .advance p latency =>
    let (committed, answer) := s.committed.settleAdvance p latency told
    ({ s with committed }, .advance answer)
  | .reset step =>
    let (committed, answer) := s.committed.settleReset step ⟨s.begun + 1⟩ told
    ({ committed, begun := begunAfter s.begun answer }, .reset answer)

/-- Another step comes into force, if it is one. -/
def set (s : Standing α) (step : α) : Standing α × Reply α :=
  match s.committed.setStep step with
  | .error e => (s, .setStep (.error e))
  | .ok committed => ({ s with committed }, .setStep (.ok step))

/-- A whole call: a job is told what became of it, and nothing else is told anything. -/
def call (r : Registry α) (s : Standing α) (request : Request α) (told : Option (Told α)) :
    Option (Standing α × Reply α) :=
  match request.intent r s.committed, told with
  | .refuse reply, none => some (s, reply)
  | .send job, some told => some (s.conclude job told)
  | .set step, none => some (s.set step)
  | _, _ => none

end Standing

/-- Calls one after the other, each with its reply. -/
inductive Served (r : Registry α) (start : Standing α) : List (Settlement α) → Standing α → Prop
  | nil : Served r start [] start
  | snoc {xs x s s'} (served : Served r start xs s)
      (call : s.call r x.request x.told = some (s', x.reply)) : Served r start (xs ++ [x]) s'

/-! ## What a call can come to -/

section

variable {r : Registry α} {c : Committed α}

theorem intent_reset_error {step : Option α} {e : SessionError α}
    (h : Committed.checkStep step = .error e) :
    (Request.reset step).intent r c = .refuse (.reset (.error e)) := by
  simp only [Request.intent, h]

theorem intent_reset_ok {step : Option α} (h : Committed.checkStep step = .ok ()) :
    (Request.reset step).intent r c = .send (.reset step) := by
  simp only [Request.intent, h]

theorem intent_advance_error {latency : Nat} {inputs : SignalMap α} {e : SessionError α}
    (h : c.plan r inputs = .error e) :
    (Request.advance latency inputs).intent r c = .refuse (.advance (.error e)) := by
  simp only [Request.intent, h]

theorem intent_advance_ok {latency : Nat} {inputs : SignalMap α} {p : AdvancePlan α}
    (h : c.plan r inputs = .ok p) :
    (Request.advance latency inputs).intent r c = .send (.advance p latency) := by
  simp only [Request.intent, h]

end

namespace Standing

variable {r : Registry α} {s s' : Standing α} {request : Request α} {told : Option (Told α)}
  {reply : Reply α}

theorem call_refuse (h : request.intent r s.committed = .refuse reply) :
    s.call r request none = some (s, reply) := by
  simp only [call, h]

theorem call_send {job : Job α} (h : request.intent r s.committed = .send job) (told : Told α) :
    s.call r request (some told) = some (s.conclude job told) := by
  simp only [call, h]

theorem call_set (s : Standing α) (step : α) :
    s.call r (.setStep step) none = some (s.set step) := rfl

/-- A call is refused for its request or its session, or it is told of its job, or it sets a
step. -/
inductive Outcome (r : Registry α) (s : Standing α) : Request α → Standing α → Reply α → Prop
  | refusedReset {step e} : Outcome r s (.reset step) s (.reset (.error e))
  | refusedAdvance {latency inputs e} : Outcome r s (.advance latency inputs) s (.advance (.error e))
  | resetFailed {step error} (valid : Committed.checkStep step = .ok ()) :
      Outcome r s (.reset step) ⟨s.committed.abandon, s.begun⟩ (.reset (.error (.reset error)))
  | begun {step outputs} (valid : Committed.checkStep step = .ok ()) :
      Outcome r s (.reset step) ⟨s.committed.opened step outputs ⟨s.begun + 1⟩, s.begun + 1⟩
        (.reset (.ok { time := s.committed.clock.warmupEnd, outputs, id := ⟨s.begun + 1⟩ }))
  | failed {latency inputs e inFlight} :
      Outcome r s (.advance latency inputs) { s with committed := s.committed.fail inFlight }
        (.advance (.error e))
  | advanced {latency inputs outputs} :
      Outcome r s (.advance latency inputs)
        { s with committed := s.committed.record inputs outputs latency }
        (.advance (.ok (s.committed.recordReport inputs outputs latency)))
  | stepRefused {step e} : Outcome r s (.setStep step) s (.setStep (.error e))
  | stepSet {step} (valid : Clock.checkStep step = .ok ()) :
      Outcome r s (.setStep step) { s with committed := s.committed.withStep step }
        (.setStep (.ok step))

theorem conclude_advance (s : Standing α) (latency : Nat) (inputs : SignalMap α) (told : Told α) :
    Outcome r s (.advance latency inputs)
      (s.conclude (.advance (s.committed.planned inputs) latency) told).1
      (s.conclude (.advance (s.committed.planned inputs) latency) told).2 := by
  cases told with
  | error failure => exact .failed
  | ok outputs =>
    simp only [conclude, Committed.settleAdvance]
    rcases s.committed.commit_cases inputs outputs latency with ⟨fault, -, hc⟩ | ⟨-, hc⟩
    · rw [hc]
      exact (.failed : Outcome r s _ { s with committed := s.committed.fail false } _)
    · rw [hc]; exact .advanced

theorem conclude_reset (s : Standing α) {step : Option α} (valid : Committed.checkStep step = .ok ())
    (told : Told α) :
    Outcome r s (.reset step) (s.conclude (.reset step) told).1 (s.conclude (.reset step) told).2 := by
  cases told with
  | error failure => exact .resetFailed valid
  | ok outputs =>
    simp only [conclude, Committed.settleReset_ok valid]
    exact .begun valid

theorem call_outcome (h : s.call r request told = some (s', reply)) :
    Outcome r s request s' reply := by
  cases request with
  | reset step =>
    cases hv : Committed.checkStep step with
    | error e =>
      simp only [call, intent_reset_error hv] at h
      cases told with
      | none => cases h; exact .refusedReset
      | some told => cases h
    | ok u =>
      simp only [call, intent_reset_ok hv] at h
      cases told with
      | none => cases h
      | some told =>
        have hc := conclude_reset (r := r) s hv told
        have he : s.conclude (.reset step) told = (s', reply) := Option.some.inj h
        rwa [he] at hc
  | advance latency inputs =>
    cases hp : s.committed.plan r inputs with
    | error e =>
      simp only [call, intent_advance_error hp] at h
      cases told with
      | none => cases h; exact .refusedAdvance
      | some told => cases h
    | ok p =>
      simp only [call, intent_advance_ok hp] at h
      cases told with
      | none => cases h
      | some told =>
        have hc := conclude_advance (r := r) s latency inputs told
        rw [Committed.plan_duration hp] at h
        have he : s.conclude (.advance (s.committed.planned inputs) latency) told = (s', reply) :=
          Option.some.inj h
        rwa [he] at hc
  | setStep step =>
    cases told with
    | some told => cases h
    | none =>
      rw [call_set, Standing.set] at h
      rcases s.committed.setStep_cases step with ⟨hv, hc⟩ | ⟨fault, hc⟩
      · rw [hc] at h; cases h; exact .stepSet hv
      · rw [hc] at h; cases h; exact .stepRefused

end Standing

/-! ## The calls of a session -/

/-- The request and the reply of a call; letting a runaway call go on is none. -/
def SessionEvent.call? : SessionEvent α → Option (Request α × Reply α)
  | .advance latency inputs answer => some (.advance latency inputs, .advance answer)
  | .reset step answer => some (.reset step, .reset answer)
  | .setStep step answer => some (.setStep step, .setStep answer)
  | .release => none

namespace Session

def standing (s : Session α σ) : Standing α := ⟨s.committed, s.begun⟩

variable (s : Session α σ)

omit [Scalar α] in
@[simp] theorem count_standing (result : Except (SessionError α) (AdvanceReport α)) :
    (s.count result).standing = s.standing := by
  cases result <;> rfl

theorem advance_call (latency : Nat) (inputs : SignalMap α) :
    ∃ told, s.standing.call s.model.registry (.advance latency inputs) told =
      some ((s.advance latency inputs).1.standing, .advance (s.advance latency inputs).2) := by
  unfold advance advanceQuietly
  simp only [count_standing]
  cases hp : s.committed.plan s.model.registry inputs with
  | error e => exact ⟨none, Standing.call_refuse (intent_advance_error hp)⟩
  | ok p =>
    refine ⟨some (s.exchange p).2, (Standing.call_send (intent_advance_ok hp) _).trans ?_⟩
    simp only
    cases (s.exchange p).2 <;> rfl

theorem reset_call (step : Option α) :
    ∃ told, s.standing.call s.model.registry (.reset step) told =
      some ((s.reset step).1.standing, .reset (s.reset step).2) := by
  unfold reset resetQuietly
  cases hc : Committed.checkStep step with
  | error e => exact ⟨none, Standing.call_refuse (intent_reset_error hc)⟩
  | ok u => exact ⟨_, Standing.call_send (intent_reset_ok hc)
      (s.worker.run s.scenario.initLimit
        (s.model.warmUp s.scenario.start s.scenario.warmupEnd)).2⟩

theorem setStep_call (step : α) :
    s.standing.call s.model.registry (.setStep step) none =
      some ((s.setStep step).1.standing, .setStep (s.setStep step).2) := by
  refine (s.standing.call_set step).trans ?_
  unfold setStep Standing.set standing
  cases s.committed.setStep step <;> rfl

variable {s} {s' : Session α σ} {e : SessionEvent α}

/-- A session executes every call as a whole. -/
theorem Step.call (h : s.Step e s') {request : Request α} {reply : Reply α}
    (he : e.call? = some (request, reply)) :
    ∃ told, s.standing.call s.model.registry request told = some (s'.standing, reply) := by
  cases e with
  | advance latency inputs answer =>
    cases he
    have hc := s.advance_call latency inputs
    rwa [show s.advance latency inputs = (s', answer) from h] at hc
  | reset step answer =>
    cases he
    have hc := s.reset_call step
    rwa [show s.reset step = (s', answer) from h] at hc
  | setStep step answer =>
    cases he
    have hc := s.setStep_call step
    rw [show s.setStep step = (s', answer) from h] at hc
    exact ⟨none, hc⟩
  | release => cases he

end Session

/-! ## Rows -/

variable {r : Registry α} {start s s' : Standing α} {xs : List (Settlement α)} {x : Settlement α}

theorem Served.last (h : Served r start (xs ++ [x]) s) :
    ∃ s₀, Served r start xs s₀ ∧ s₀.call r x.request x.told = some (s, x.reply) := by
  generalize hys : xs ++ [x] = ys at h
  cases h with
  | nil => exact absurd hys (by simp)
  | snoc served call =>
    obtain ⟨rfl, hx⟩ := List.append_inj' hys rfl
    cases hx
    exact ⟨_, served, call⟩

/-- A reset that succeeds leaves no rows. -/
theorem Standing.Outcome.rows_reset {request : Request α} {report : ResetReport α}
    (h : Standing.Outcome r s request s' (.reset (.ok report))) :
    s'.committed.results.size = 0 := by
  cases h
  rfl

/-- Any other call adds a row if it is an advance that succeeds, and leaves the rows alone if
not. -/
theorem Standing.Outcome.rows {request : Request α} {reply : Reply α}
    (h : Standing.Outcome r s request s' reply) (hr : request.isReset = false) :
    s'.committed.results.size = s.committed.results.size + if reply.advanced then 1 else 0 := by
  cases h with
  | refusedReset | resetFailed | begun => cases hr
  | failed => rw [(s.committed.fail_fields _).2.2.1]; rfl
  | advanced => exact Array.size_push _
  | _ => rfl

theorem Served.rows {pre post : List (Settlement α)} {report : ResetReport α}
    (h : Served r start (pre ++ x :: post) s) (hx : x.reply = .reset (.ok report))
    (hpost : ∀ y ∈ post, y.request.isReset = false) :
    s.committed.results.size = post.countP (·.reply.advanced) := by
  -- from the end, since `Served` grows there
  induction post using List.reverseRecOn generalizing s with
  | nil =>
    obtain ⟨s₀, -, hc⟩ := h.last
    rw [hx] at hc
    exact (Standing.call_outcome hc).rows_reset
  | append_singleton post y ih =>
    rw [← List.cons_append, ← List.append_assoc] at h
    obtain ⟨s₀, hs, hc⟩ := h.last
    have hy := hpost y (List.mem_append_right _ (List.mem_singleton_self y))
    rw [(Standing.call_outcome hc).rows hy, List.countP_append, List.countP_singleton,
      ih hs fun z hz => hpost z (List.mem_append_left _ hz)]

end BuildingEmulation
