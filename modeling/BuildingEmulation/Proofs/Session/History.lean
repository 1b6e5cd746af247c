import BuildingEmulation.Proofs.Session.Calls

/-!
# What has happened since a session began

A scored window begins with a reset that succeeds. A reset that is refused does not touch the
session, and one that fails leaves nothing to score, so neither begins anything.

Results:
* `sinceBegin_snoc`: a transition either begins a window or belongs to the present one.
* `latencies_snoc`: the latencies of the steps that were committed in it.
* `lastOf_snoc`: what the calls so far have answered last.
-/
namespace BuildingEmulation

variable {α σ : Type}

/-- A successful reset. -/
def SessionEvent.begins : SessionEvent α → Bool
  | .reset _ (.ok _) => true
  | _ => false

/-- A reset that has reached the unit, whatever came of it. One that is refused has not. -/
def SessionEvent.restarts : SessionEvent α → Bool
  | .reset _ (.ok _) => true
  | .reset _ (.error e) => !e.isRejection
  | _ => false

/-- The latency of an advance that was committed. -/
def SessionEvent.latency? : SessionEvent α → Option Nat
  | .advance latency _ (.ok _) => some latency
  | _ => none

/-- The transitions since the last successful reset. -/
def sinceBegin (ts : List (Transition (Session α σ) (SessionEvent α))) :
    List (Transition (Session α σ) (SessionEvent α)) :=
  ts.foldl (fun window t => if t.label.begins then [] else window ++ [t]) []

/-- The latencies of the steps that were committed since the last successful reset. -/
def latencies (ts : List (Transition (Session α σ) (SessionEvent α))) : List Nat :=
  (sinceBegin ts).filterMap (·.label.latency?)

variable (ts : List (Transition (Session α σ) (SessionEvent α)))
  (t : Transition (Session α σ) (SessionEvent α))

theorem sinceBegin_snoc :
    sinceBegin (ts ++ [t]) = if t.label.begins then [] else sinceBegin ts ++ [t] := by
  rw [sinceBegin, List.foldl_append]; rfl

theorem latencies_snoc :
    latencies (ts ++ [t]) =
      if t.label.begins then [] else latencies ts ++ t.label.latency?.toList := by
  rw [latencies, sinceBegin_snoc]
  split
  · rfl
  · rw [List.filterMap_append]
    cases h : t.label.latency? <;> simp [latencies, h]

/-! ## What was answered last -/

/-- The outputs that a call answers with. -/
def SessionEvent.outputs? : SessionEvent α → Option (SignalMap α)
  | .advance _ _ (.ok report) => some report.outputs
  | .reset _ (.ok report) => some report.outputs
  | _ => none

/-- The step that a call puts in force. -/
def SessionEvent.step? : SessionEvent α → Option α
  | .reset step (.ok _) => step
  | .setStep step (.ok _) => some step
  | _ => none

/-- What the last of the calls that have something to tell has told. -/
def lastOf {β : Type} (tell : SessionEvent α → Option β)
    (ts : List (Transition (Session α σ) (SessionEvent α))) : Option β :=
  (ts.filterMap (tell ·.label)).getLast?

/-- The step that was put in force last; the scenario's own before any other. -/
def stepInForce (scenario : Scenario α)
    (ts : List (Transition (Session α σ) (SessionEvent α))) : α :=
  (lastOf SessionEvent.step? ts).getD scenario.step

theorem lastOf_snoc {β : Type} (tell : SessionEvent α → Option β) :
    lastOf tell (ts ++ [t]) = (tell t.label).or (lastOf tell ts) := by
  rw [lastOf, List.filterMap_append, List.getLast?_append]
  cases h : tell t.label <;> simp [lastOf, h]

theorem stepInForce_snoc (scenario : Scenario α) :
    stepInForce scenario (ts ++ [t]) = t.label.step?.getD (stepInForce scenario ts) := by
  rw [stepInForce, lastOf_snoc]
  cases t.label.step? <;> rfl

end BuildingEmulation
