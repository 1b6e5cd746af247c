import BuildingEmulation.Api.Service
import BuildingEmulation.Decimal.Shortest
import BuildingEmulation.Proofs.Session.Fixed
import BuildingEmulation.Proofs.Text.Bytes
import BuildingEmulation.Scalar.Double

/-!
# A refused request has done nothing

A client that is answered with a status from 400 to 499 may send another request as if the refused
one had never been there: the answer was found before the model or the committed state was touched.
`Served` says what requests ask of a session at all; whatever else is sent leaves it as it was.

An advance is asked three questions in this order: whether its body is a table of reals, whether the
session is ready, and whether the registry takes its inputs, which are looked at in the order of the
bytes of their names. A reset is asked whether its body is empty but for blanks or a valid request,
and whether its step is one.

Results:
* `served_respond`: what a request asks of a session.
* `advance_answered`, `reset_answered`: how an advance and a reset are answered.
* `refusals_harmless`: along every sequence of requests to every session.
-/
namespace BuildingEmulation

variable {α σ : Type} [Scalar α]

/-! ## Inputs that are refused -/

/-- The registry does not take the value of an entry. -/
def Registry.Refuses (r : Registry α) (entry : String × α) : Prop :=
  ∃ fault, r.validateInput entry.1 entry.2 = .error fault

/-- Of the inputs that the registry does not take, the one whose name has the least bytes. -/
structure Registry.FirstRefused (r : Registry α) (inputs : SignalMap α) (name : String)
    (fault : InputFault α) : Prop where
  refused : ∃ x, (name, x) ∈ inputs.entries ∧ r.validateInput name x = .error fault
  least : ∀ entry ∈ inputs.entries, r.Refuses entry →
    entry.1 = name ∨ Text.bytes name < Text.bytes entry.1

namespace Committed

theorem checkInputs_first {r : Registry α} {entries : List (String × α)} {e : SessionError α}
    (sorted : entries.Pairwise (fun a b => a.1 < b.1)) (h : checkInputs r entries = .error e) :
    ∃ name fault, e = .invalidInput name fault ∧
      (∃ x, (name, x) ∈ entries ∧ r.validateInput name x = .error fault) ∧
      ∀ entry ∈ entries, r.Refuses entry → entry.1 = name ∨ name < entry.1 := by
  induction entries with
  | nil => cases h
  | cons entry rest ih =>
    obtain ⟨name, x⟩ := entry
    rcases bind_eq_error h with hv | ⟨u, hv, h⟩
    · obtain ⟨fault, hf, rfl⟩ := mapError_eq_error hv
      refine ⟨name, fault, rfl, ⟨x, List.mem_cons_self, hf⟩, fun entry hm _ => ?_⟩
      rcases List.mem_cons.1 hm with rfl | hm
      · exact .inl rfl
      · exact .inr (List.rel_of_pairwise_cons sorted hm)
    · obtain ⟨other, fault, he, ⟨y, hy, hf⟩, least⟩ := ih sorted.of_cons h
      refine ⟨other, fault, he, ⟨y, List.mem_cons_of_mem _ hy, hf⟩, fun entry hm refused => ?_⟩
      rcases List.mem_cons.1 hm with rfl | hm
      · obtain ⟨fault', hf'⟩ := refused
        rw [mapError_eq_ok hv] at hf'; cases hf'
      · exact least entry hm refused

theorem not_refuses {r : Registry α} {entries : List (String × α)}
    (h : checkInputs r entries = .ok ()) : ∀ entry ∈ entries, ¬ r.Refuses entry := by
  rintro entry hm ⟨fault, hf⟩
  rw [checkInputs_ok h entry hm] at hf
  cases hf

/-- An advance that is not planned is refused for the lifecycle, or else for its first input that
the registry does not take. -/
theorem plan_error {c : Committed α} {r : Registry α} {inputs : SignalMap α} {e : SessionError α}
    (h : c.plan r inputs = .error e) :
    (c.lifecycle ≠ .ready ∧ (e = .notReady ∨ e = .scenarioEnded)) ∨
      (c.lifecycle = .ready ∧
        ∃ name fault, e = .invalidInput name fault ∧ r.FirstRefused inputs name fault) := by
  unfold plan checkReady at h
  cases hl : c.lifecycle with
  | uninitialized | needsReset => rw [hl] at h; cases h; exact .inl ⟨nofun, .inl rfl⟩
  | scenarioEnded => rw [hl] at h; cases h; exact .inl ⟨nofun, .inr rfl⟩
  | ready =>
    cases hi : checkInputs r inputs.entries with
    | ok u => rw [hl, hi] at h; cases h
    | error e' =>
      obtain ⟨name, fault, he, refused, least⟩ := checkInputs_first inputs.sorted hi
      rw [hl, hi] at h; cases h
      exact .inr ⟨rfl, name, fault, he, refused, fun entry hm hr =>
        (least entry hm hr).imp_right Text.bytes_lt⟩

end Committed

/-! ## Sessions that are left alone -/

namespace Session

/-- Nothing has happened to what was committed, nor to the unit. -/
structure Untouched (s s' : Session α σ) : Prop where
  committed : s'.committed = s.committed
  worker : s'.worker = s.worker

omit [Scalar α] in
theorem Untouched.rfl {s : Session α σ} : s.Untouched s := ⟨Eq.refl _, Eq.refl _⟩

omit [Scalar α] in
theorem Untouched.trans {s s' s'' : Session α σ} (h : s.Untouched s') (h' : s'.Untouched s'') :
    s.Untouched s'' :=
  ⟨h'.committed.trans h.committed, h'.worker.trans h.worker⟩

/-- The next step was made by the model and recorded in every part. -/
def Commits (s s' : Session α σ) (inputs : SignalMap α) (latency : Nat)
    (report : AdvanceReport α) : Prop :=
  ∃ outputs, s.worker.run s.scenario.stepLimit (s.model.exchange inputs s.committed.clock.plan) =
      (s'.worker, .ok outputs) ∧
    s'.committed = s.committed.record inputs outputs latency ∧
    report = s.committed.recordReport inputs outputs latency

/-- The log of a step that is recorded is longer than before. -/
theorem Commits.ne {s s' : Session α σ} {inputs : SignalMap α} {latency : Nat}
    {report : AdvanceReport α} (h : s.Commits s' inputs latency report) :
    s'.committed ≠ s.committed := by
  obtain ⟨outputs, -, hc, -⟩ := h
  intro same
  rw [same] at hc
  have hsize : s.committed.results.rows.size = s.committed.results.rows.size + 1 :=
    (congrArg (·.results.rows.size) hc).trans (Array.size_push _)
  omega

/-- A call that is answered with an error of the client has touched nothing. -/
theorem Step.untouched {s s' : Session α σ} {event : SessionEvent α} {e : SessionError α}
    (h : s.Step event s') (he : event.error? = some e) (hs : Api.errorStatus e < 500) :
    s.Untouched s' := by
  have hc := h.change
  generalize hw : s'.worker = w at hc
  generalize hcm : s'.committed = c at hc
  cases hc with
  | refused | resetRefused | stepRefused => exact ⟨hcm, hw⟩
  | failed | uncommitted | resetFailed => cases he; exact absurd hs (Nat.lt_irrefl 500)
  | advanced | begun | stepSet | released => cases he

end Session

namespace Api

variable [Decimal.Numeral α]

/-! ## What requests ask of a session -/

/-- The request has a method and names a resource. -/
def Asks (q : Http.Request) (method : String) (resource : Resource) : Prop :=
  q.method = method ∧ Resource.ofPath? q.path = some resource

/-- What an answered request has asked of a session: one of its calls, or nothing. -/
inductive Served (latency : Nat) (s : Session α σ) (q : Http.Request) :
    Session α σ → Response α → Prop
  | nothing {r} : Served latency s q s r
  | advance {d} (asks : Asks q "POST" .advance) (body : jsonBody inputsShape q = .ok d) :
      Served latency s q (s.advance latency (signals d)).1
        (ofAnswer ofAdvance (s.advance latency (signals d)).2)
  | reset {step} (asks : Asks q "PUT" .reset) (body : resetStep q = .ok step) :
      Served latency s q (s.reset step).1 (ofAnswer ofReset (s.reset step).2)
  | setStep {step} (asks : Asks q "PUT" .step) :
      Served latency s q (s.setStep step).1 (ofAnswer ofStep (s.setStep step).2)

variable {latency : Nat} {s : Session α σ} {q : Http.Request}

theorem served_answer {resource : Resource} (h : Resource.ofPath? q.path = some resource) :
    Served latency s q (answer latency s q resource).1 (answer latency s q resource).2 := by
  unfold answer
  split
  · next hm =>
    unfold postAdvance
    cases hb : jsonBody (α := α) inputsShape q with
    | error r => exact .nothing
    | ok d => exact .advance ⟨hm, h⟩ hb
  · next hm =>
    unfold putReset
    cases hb : resetStep (α := α) q with
    | error r => exact .nothing
    | ok step => exact .reset ⟨hm, h⟩ hb
  · next hm =>
    unfold putStep
    split
    · exact .nothing
    · split
      · exact .nothing
      · exact .setStep ⟨hm, h⟩
  · exact .nothing
  · exact .nothing
  · exact .nothing

theorem served_respond (latency : Nat) (s : Session α σ) (q : Http.Request) :
    Served latency s q (respond latency s q).1 (respond latency s q).2 := by
  unfold respond
  split
  · exact .nothing
  · next h => exact served_answer h

theorem respond_advance (h : Asks q "POST" .advance) :
    respond latency s q = postAdvance latency s q := by
  simp only [respond, h.2, answer, h.1]

theorem respond_reset (h : Asks q "PUT" .reset) : respond latency s q = putReset s q := by
  simp only [respond, h.2, answer, h.1]

/-! ## Statuses -/

/-- The request was refused as one that the client should not have sent. -/
def Response.Refuses (r : Response α) : Prop := 400 ≤ r.status ∧ r.status < 500

omit [Scalar α] [Decimal.Numeral α] in
instance (r : Response α) : Decidable r.Refuses := inferInstanceAs (Decidable (_ ∧ _))

theorem ofAnswer_untouched {β : Type} {encode : β → Document α} {s s' : Session α σ}
    {event : SessionEvent α} {answer : Except (SessionError α) β} (h : s.Step event s')
    (he : ∀ e, answer = .error e → event.error? = some e) (hr : (ofAnswer encode answer).Refuses) :
    s.Untouched s' := by
  cases answer with
  | ok b => exact absurd hr.1 (show ¬ 400 ≤ 200 by decide)
  | error e => exact h.untouched (he e rfl) hr.2

section

variable {s' : Session α σ} {r : Response α}

theorem Served.untouched (h : Served latency s q s' r) (hr : r.Refuses) : s.Untouched s' := by
  cases h with
  | nothing => exact .rfl
  | @advance d =>
    have step : s.Step (.advance latency (signals d) (s.advance latency (signals d)).2) _ := rfl
    exact ofAnswer_untouched step (fun e he => by rw [he]; rfl) hr
  | @reset new =>
    have step : s.Step (.reset new (s.reset new).2) _ := rfl
    exact ofAnswer_untouched step (fun e he => by rw [he]; rfl) hr
  | @setStep new =>
    have step : s.Step (.setStep new (s.setStep new).2) _ := rfl
    exact ofAnswer_untouched step (fun e he => by rw [he]; rfl) hr

/-- Only a request to advance, to reset or to change the step gets through to the session. -/
theorem Served.eq_of_method (h : Served latency s q s' r) (post : q.method ≠ "POST")
    (put : q.method ≠ "PUT") : s' = s := by
  cases h with
  | nothing => rfl
  | advance asks => exact absurd asks.1 post
  | reset asks | setStep asks => exact absurd asks.1 put

theorem Served.keepsRecord (h : Served latency s q s' r) (asks : Asks q "POST" .advance)
    (hr : r.status = 500) : s.KeepsRecord s' := by
  cases h with
  | nothing => exact ⟨rfl, rfl, rfl, rfl, rfl⟩
  | reset asks' | setStep asks' => exact absurd (asks.1.symm.trans asks'.1) (by decide)
  | @advance d =>
    have hc := Session.advance_change s latency (signals d)
    generalize (s.advance latency (signals d)).1.worker = w at hc
    generalize hcm : (s.advance latency (signals d)).1.committed = c at hc
    generalize (s.advance latency (signals d)).2 = a at hc hr
    cases hc with
    | refused | uncommitted =>
      have hk : (s.advance latency (signals d)).1.committed = s.committed.fail false := hcm
      exact Session.keepsRecord_fail _ hk
    | failed => exact Session.keepsRecord_fail _ hcm
    | advanced => cases hr

end

/-! ## Advances -/

/-- How an advance with some inputs is answered. -/
structure AdvanceAnswered (latency : Nat) (s s' : Session α σ) (inputs : SignalMap α)
    (r : Response α) : Prop where
  conflict : r.status = 409 ↔ s.committed.lifecycle ≠ .ready
  invalid : s.committed.lifecycle = .ready →
    (r.status = 400 ↔ ∃ entry ∈ inputs.entries, s.model.registry.Refuses entry)
  named : r.status = 400 → ∃ name fault, s.model.registry.FirstRefused inputs name fault ∧
    r.body = some (ofMessage (SessionError.invalidInput name fault).message)
  committed : s.committed.lifecycle = .ready →
    (∀ entry ∈ inputs.entries, ¬ s.model.registry.Refuses entry) →
    (r.status = 200 ↔ ∃ report, s.Commits s' inputs latency report)
  report : r.status = 200 → ∃ report, s.Commits s' inputs latency report ∧
    r.body = some (ofAdvance report)

section

variable {s' : Session α σ} {inputs : SignalMap α}

theorem answered_conflict {e : SessionError α} (unready : s.committed.lifecycle ≠ .ready)
    (he : e = .notReady ∨ e = .scenarioEnded) :
    AdvanceAnswered latency s s' inputs (ofAnswer ofAdvance (.error e)) := by
  rcases he with rfl | rfl
  all_goals exact {
    conflict := ⟨fun _ => unready, fun _ => rfl⟩
    invalid := fun ready => absurd ready unready
    named := nofun
    committed := fun ready => absurd ready unready
    report := nofun }

theorem answered_invalid {name : String} {fault : InputFault α}
    (ready : s.committed.lifecycle = .ready)
    (first : s.model.registry.FirstRefused inputs name fault) :
    AdvanceAnswered latency s s' inputs (ofAnswer ofAdvance (.error (.invalidInput name fault))) := by
  obtain ⟨x, hm, hf⟩ := first.refused
  exact {
    conflict := ⟨nofun, fun unready => absurd ready unready⟩
    invalid := fun _ => ⟨fun _ => ⟨_, hm, fault, hf⟩, fun _ => rfl⟩
    named := fun _ => ⟨name, fault, first, rfl⟩
    committed := fun _ valid => absurd ⟨fault, hf⟩ (valid _ hm)
    report := nofun }

theorem answered_failed {e : SessionError α} (ready : s.committed.lifecycle = .ready)
    (valid : Committed.checkInputs s.model.registry inputs.entries = .ok ())
    (status : errorStatus e = 500) (lost : ∀ report, ¬ s.Commits s' inputs latency report) :
    AdvanceAnswered latency s s' inputs (ofAnswer ofAdvance (.error e)) := by
  have other {k : Nat} (hk : k ≠ 500) : (ofAnswer ofAdvance (.error e)).status ≠ k :=
    fun h => hk (h.symm.trans status)
  exact {
    conflict := ⟨fun h => absurd h (other (by decide)), fun unready => absurd ready unready⟩
    invalid := fun _ => ⟨fun h => absurd h (other (by decide)),
      fun ⟨entry, hm, hr⟩ => absurd hr (Committed.not_refuses valid entry hm)⟩
    named := fun h => absurd h (other (by decide))
    committed := fun _ _ => ⟨fun h => absurd h (other (by decide)),
      fun ⟨report, commits⟩ => absurd commits (lost report)⟩
    report := fun h => absurd h (other (by decide)) }

theorem answered_committed {report : AdvanceReport α} (ready : s.committed.lifecycle = .ready)
    (valid : Committed.checkInputs s.model.registry inputs.entries = .ok ())
    (commits : s.Commits s' inputs latency report) :
    AdvanceAnswered latency s s' inputs (ofAnswer ofAdvance (.ok report)) where
  conflict := ⟨nofun, fun unready => absurd ready unready⟩
  invalid _ := ⟨nofun, fun ⟨entry, hm, hr⟩ => absurd hr (Committed.not_refuses valid entry hm)⟩
  named := nofun
  committed _ _ := ⟨fun _ => ⟨report, commits⟩, fun _ => rfl⟩
  report _ := ⟨report, commits, rfl⟩

end

theorem advance_answered (latency : Nat) (s : Session α σ) (inputs : SignalMap α) :
    AdvanceAnswered latency s (s.advance latency inputs).1 inputs
      (ofAnswer ofAdvance (s.advance latency inputs).2) := by
  have hc := Session.advance_change s latency inputs
  generalize hw : (s.advance latency inputs).1.worker = w at hc
  generalize hcm : (s.advance latency inputs).1.committed = c at hc
  generalize (s.advance latency inputs).2 = a at hc
  cases hc with
  | refused plan =>
    rcases Committed.plan_error plan with ⟨unready, he⟩ | ⟨ready, name, fault, rfl, first⟩
    · exact answered_conflict unready he
    · exact answered_invalid ready first
  | failed ready valid run =>
    refine answered_failed ready valid rfl fun report ⟨outputs, run', _⟩ => ?_
    rw [run] at run'; cases run'
  | uncommitted ready valid =>
    exact answered_failed ready valid rfl fun report commits => commits.ne hcm
  | advanced ready valid run =>
    exact answered_committed ready valid ⟨_, by rw [hw]; exact run, hcm, rfl⟩

/-! ## Resets -/

/-- How a reset with some bytes is answered. -/
structure ResetAnswered (s s' : Session α σ) (bytes : List UInt8) (r : Response α) : Prop where
  blank : bytes.all isBlank = true →
    s' = (s.reset none).1 ∧ r = ofAnswer ofReset (s.reset none).2
  malformed : bytes.all isBlank = false → (∀ d : Document α, resetShape.readJson bytes ≠ .ok d) →
    r.status = 400 ∧ s' = s
  unusable : ∀ (d : Document α) (step : α), bytes.all isBlank = false →
    resetShape.readJson bytes = .ok d → d.field? "step" >>= Document.real? = some step →
    ¬ (Scalar.isFinite step = true ∧ 0.0 < step) → r.status = 400 ∧ s.Untouched s'
  usable : ∀ d : Document α, bytes.all isBlank = false → resetShape.readJson bytes = .ok d →
    s' = (s.reset (d.field? "step" >>= Document.real?)).1 ∧
      r = ofAnswer ofReset (s.reset (d.field? "step" >>= Document.real?)).2

omit [Decimal.Numeral α] in
theorem checkStep_unusable {step : α} (h : ¬ (Scalar.isFinite step = true ∧ 0.0 < step)) :
    Committed.checkStep (some step) = .error (.invalidStep (.invalidStep step)) := by
  have hb : (Scalar.isFinite step && decide (0.0 < step)) = false := by
    rw [Bool.eq_false_iff, ne_eq, Bool.and_eq_true, decide_eq_true_eq]
    exact h
  rw [Committed.checkStep, Clock.checkStep, hb]
  rfl

theorem reset_unusable {step : α} (h : ¬ (Scalar.isFinite step = true ∧ 0.0 < step)) :
    (ofAnswer ofReset (s.reset (some step)).2).status = 400 ∧
      s.Untouched (s.reset (some step)).1 := by
  rw [Session.reset, Session.reset_rejected (checkStep_unusable h)]
  exact ⟨rfl, rfl, rfl⟩

theorem putReset_ok {step : Option α} (h : resetStep q = .ok step) :
    putReset s q = ((s.reset step).1, ofAnswer ofReset (s.reset step).2) := by
  rw [putReset, h]

theorem resetStep_valid {bytes : List UInt8} {d : Document α}
    (h : receive (α := α) q = .ok bytes) (hb : bytes.all isBlank = false)
    (hd : resetShape.readJson bytes = .ok d) :
    resetStep q = .ok (d.field? "step" >>= Document.real?) := by
  simp only [resetStep, h, hb, Bool.false_eq_true, if_false, hd]

theorem reset_answered {bytes : List UInt8} (h : receive (α := α) q = .ok bytes) :
    ResetAnswered s (putReset s q).1 bytes (putReset s q).2 where
  blank hb := by
    have hs : resetStep q = .ok (none : Option α) := by simp only [resetStep, h, hb, if_true]
    rw [putReset_ok hs]
    exact ⟨rfl, rfl⟩
  malformed hb hd := by
    cases hr : resetShape.readJson (α := α) bytes with
    | ok d => exact absurd hr (hd d)
    | error fault =>
      have hs : resetStep (α := α) q =
          .error { status := 400, body := some (ofMessage "invalid reset request") } := by
        simp only [resetStep, h, hb, Bool.false_eq_true, if_false, hr]
      rw [putReset, hs]
      exact ⟨rfl, rfl⟩
  unusable d step hb hd hx bad := by
    rw [putReset_ok (resetStep_valid h hb hd), hx]
    exact reset_unusable bad
  usable d hb hd := by
    rw [putReset_ok (resetStep_valid h hb hd)]
    exact ⟨rfl, rfl⟩

/-! ## Sequences of requests -/

/-- A request that was answered, with the session before it and after it. An advance would take
`latency` nanoseconds to compute. -/
structure Turn (α σ : Type) where
  before : Session α σ
  latency : Nat
  request : Http.Request
  response : Response α
  after : Session α σ

/-- What becomes of requests that come one after the other. -/
def serve (s : Session α σ) : List (Nat × Http.Request) → List (Turn α σ)
  | [] => []
  | (latency, q) :: rest =>
    let (s', r) := respond latency s q
    ⟨s, latency, q, r, s'⟩ :: serve s' rest

/-- The session after such requests. -/
def sessionAfter (s : Session α σ) (arrivals : List (Nat × Http.Request)) : Session α σ :=
  arrivals.foldl (fun s (latency, q) => (respond latency s q).1) s

/-- The status of an answer tells what has happened. -/
structure Turn.Honest (t : Turn α σ) : Prop where
  refused : t.response.Refuses → t.before.Untouched t.after
  failed : Asks t.request "POST" .advance → t.response.status = 500 → t.before.KeepsRecord t.after
  looked : t.request.method = "GET" → t.after = t.before
  advance : ∀ d, Asks t.request "POST" .advance → jsonBody inputsShape t.request = .ok d →
    AdvanceAnswered t.latency t.before t.after (signals d) t.response
  reset : ∀ bytes, Asks t.request "PUT" .reset → receive (α := α) t.request = .ok bytes →
    ResetAnswered t.before t.after bytes t.response

theorem respond_honest {s' : Session α σ} {r : Response α} (h : respond latency s q = (s', r)) :
    Turn.Honest ⟨s, latency, q, r, s'⟩ := by
  have served : Served latency s q s' r := by
    have served := served_respond latency s q
    rwa [h] at served
  constructor
  case refused => exact served.untouched
  case failed => exact served.keepsRecord
  case looked =>
    intro get
    have get : q.method = "GET" := get
    exact served.eq_of_method (by rw [get]; decide) (by rw [get]; decide)
  case advance =>
    intro d asks body
    have body : jsonBody inputsShape q = .ok d := body
    rw [respond_advance asks, postAdvance, body] at h
    cases h
    exact advance_answered latency s (signals d)
  case reset =>
    intro bytes asks body
    rw [respond_reset asks] at h
    have answered := reset_answered (s := s) body
    rwa [h] at answered

/-- Over every session and for every sequence of requests, the statuses of the answers tell what
has happened; and if there were only refusals and requests to look at something, nothing has. -/
theorem refusals_harmless (s : Session α σ) (arrivals : List (Nat × Http.Request)) :
    (∀ t ∈ serve s arrivals, t.Honest) ∧
      ((∀ t ∈ serve s arrivals, t.response.Refuses ∨ t.request.method = "GET") →
        s.Untouched (sessionAfter s arrivals)) := by
  induction arrivals generalizing s with
  | nil => exact ⟨fun _ hm => absurd hm List.not_mem_nil, fun _ => .rfl⟩
  | cons arrival rest ih =>
    obtain ⟨latency, q⟩ := arrival
    cases h : respond latency s q with
    | mk s' r =>
      have honest := respond_honest h
      obtain ⟨ih, idle⟩ := ih s'
      simp only [serve, sessionAfter, List.foldl_cons, h, List.mem_cons, forall_eq_or_imp]
      refine ⟨⟨honest, ih⟩, fun ⟨first, quiet⟩ => ?_⟩
      have first : s.Untouched s' := by
        rcases first with hr | hm
        · exact honest.refused hr
        · have same : s' = s := honest.looked hm
          exact ⟨congrArg _ same, congrArg _ same⟩
      exact first.trans (idle quiet)

end Api

/-! ## A basin -/

namespace Basin

/-- A basin that fills at its own pace, whatever its valve and its drain are told. -/
def unit : EmulationUnit Float Nat where
  metadata :=
    { overwrite := [{ path := "valve", min := 0.0, max := 1.0 },
        { path := "drain", min := 0.0, max := 1.0 }]
      read := [{ path := "level" }] }
  restart _ _ := fun _ => .returned 0 ()
  set _ _ := fun made => .returned made ()
  doStep _ := fun made => .returned (made + 1) ()
  get _ := fun made => .returned made (Scalar.ofNat made)

/-- Eight seconds to score, in steps of three. -/
def scenario : Scenario Float where
  name := "basin"
  start := 0.0
  stop := 10.0
  warmup := 2.0
  step := 3.0
  stepLimit := ⟨5⟩
  initLimit := ⟨7⟩

def session : Session Float Nat where
  scenario := scenario
  model :=
    { unit
      registry :=
        { inputs := [⟨"drain_u", "", 0.0, 1.0, "drain_activate", ""⟩,
            ⟨"valve_u", "", 0.0, 1.0, "valve_activate", ""⟩]
          outputs := [⟨"level_y", "", "", []⟩]
          groups := [] } }
  worker := .idle 0
  committed := .fresh scenario { kpis := [], computed := 0.0, simulated := 0.0 }
  begun := 0
  metrics := none

/-- A request to advance with some inputs. -/
def advance (inputs : String) : Nat × Http.Request :=
  (0, { method := "POST", target := "/advance", contentType := some "application/json"
        body := inputs })

/-- A request to reset. -/
def reset (body : String) : Nat × Http.Request :=
  (0, { method := "PUT", target := "/reset", body })

/-- A client that has to reset first, and does. -/
def opening : List (Nat × Http.Request) := [advance "\x7b\"valve_u\": 7\x7d", reset " \n"]

/-- Two inputs, of which neither is within its bounds. -/
def tooMuch : Nat × Http.Request := advance "\x7b\"valve_u\": 7, \"drain_u\": 9\x7d"

/-- A client that sends nothing but what is refused, and looks at the indicators. -/
def idling : List (Nat × Http.Request) :=
  [tooMuch, reset "\x7b\"step\": -1\x7d", reset "now", (0, { method := "GET", target := "/kpi" })]

/-- The session of the basin once it has been opened. -/
def ready : Session Float Nat := Api.sessionAfter session opening

end Basin

namespace Api

/-- Four requests to a session that is ready, three of them refused, leave it where it was. The
inputs of the first one are refused for one of them. -/
theorem refusals_harmless_basin :
    (serve Basin.session (Basin.opening ++ Basin.idling)).map (·.response.status) =
        [409, 200, 400, 400, 400, 200] ∧
      Basin.ready.committed.lifecycle = .ready ∧
      Basin.ready.Untouched (sessionAfter Basin.ready Basin.idling) ∧
      ∃ d name fault, jsonBody inputsShape Basin.tooMuch.2 = .ok d ∧
        Basin.ready.model.registry.FirstRefused (signals d) name fault := by
  obtain ⟨honest, idle⟩ := refusals_harmless Basin.ready Basin.idling
  have first := honest _ List.mem_cons_self
  obtain ⟨d, body⟩ := eq_ok_of_toBool
    (show (jsonBody (α := Float) inputsShape Basin.tooMuch.2).toBool = true by decide +kernel)
  have asks : Asks Basin.tooMuch.2 "POST" .advance := ⟨rfl, by decide +kernel⟩
  obtain ⟨name, fault, refused, -⟩ := (first.advance d asks body).named (by decide +kernel)
  exact ⟨by decide +kernel, by decide +kernel, idle (by decide +kernel), d, name, fault, body,
    refused⟩

end Api

end BuildingEmulation
