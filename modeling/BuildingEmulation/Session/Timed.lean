import BuildingEmulation.Session.Basic

/-!
# Timed sessions

Advances whose computing time is measured by a stopwatch, which only some monads have.
-/
namespace BuildingEmulation.Session

variable {α σ : Type} [Scalar α] {m : Type → Type} [Monad m]

/-- An advance that takes as long as the stopwatch shows for its exchange, in nanoseconds. -/
def advanceTimed (stopwatch : {β : Type} → (Unit → β) → m (β × Nat)) (s : Session α σ)
    (inputs : SignalMap α) : m (Session α σ × Except (SessionError α) (AdvanceReport α)) :=
  match s.committed.plan s.model.registry inputs with
  | .error e => pure (s.count (.error e), .error e)
  | .ok p => do
    let ((s, answer), latency) ← stopwatch fun _ => s.exchange p
    let (s, result) := s.settle p latency answer
    pure (s.count result, result)

/-- Advance without inputs at most `fuel` times, until the scenario ends or a call fails; the
number of steps, if it came to that. -/
def runTimed (stopwatch : {β : Type} → (Unit → β) → m (β × Nat)) :
    Nat → Nat → Session α σ → m (Session α σ × Option (Except (SessionError α) Nat))
  | 0, _, s => pure (s, none)
  | fuel + 1, steps, s => do
    match ← s.advanceTimed stopwatch .empty with
    | (s, .error e) => pure (s, some (.error e))
    | (s, .ok report) =>
      if report.endOfScenario then pure (s, some (.ok (steps + 1)))
      else runTimed stopwatch fuel (steps + 1) s

end BuildingEmulation.Session
