import BuildingEmulation.Session.Basic

/-!
# Advances seen from inside

While an exchange is inside the unit, readers see the state that was last committed. `advanceHeld`
stops an advance at the point where its unit blocks, shows the session at that moment, and then
lets the unit go on within the time limit.
-/
namespace BuildingEmulation.Session

variable {α σ : Type} [Scalar α]

/-- The exchange of a plan, let go on from the state that `letGo` makes if it blocks once; with the
session at the moment of blocking. -/
def exchangeHeld (s : Session α σ) (p : AdvancePlan α) (letGo : σ → σ) :
    Session α σ × Option (Session α σ) × Except (CallFailure α) (SignalMap α) :=
  match s.worker with
  | .busy _ _ =>
    let (s, answer) := s.exchange p
    (s, none, answer)
  | .idle state =>
    match s.model.exchange p.inputs p.duration state with
    | .blocked held resume =>
      let progress := resume (letGo held)
      ({ s with worker := .ofProgress progress },
        some { s with worker := .busy held fun state => (resume state).discard },
        Worker.answerOf s.scenario.stepLimit progress)
    | progress =>
      ({ s with worker := .ofProgress progress }, none,
        Worker.answerOf s.scenario.stepLimit progress)

/-- An advance held back inside the unit for a moment, with the session at that moment if it came
to it. -/
def advanceHeld (s : Session α σ) (latency : Nat) (inputs : SignalMap α) (letGo : σ → σ) :
    Session α σ × Option (Session α σ) × Except (SessionError α) (AdvanceReport α) :=
  match s.committed.plan s.model.registry inputs with
  | .error e => (s.count (.error e), none, .error e)
  | .ok p =>
    let (s, during, answer) := s.exchangeHeld p letGo
    let (s, result) := s.settle p latency answer
    (s.count result, during, result)

end BuildingEmulation.Session
