import BuildingEmulation.Metrics.Exposition

/-!
# Metrics of a session

How many requests a session has handled and how they ended, how long its model steps took, and how
far it has come.

Results:
* `total_record`: a recorded outcome raises its own count by one and no other.
-/
namespace BuildingEmulation.Metrics

/-- How a request ended. -/
inductive Outcome
  | ok
  /-- Refused before anything was touched. -/
  | rejected
  | failed
  deriving Repr, DecidableEq

def Outcome.label : Outcome → String
  | ok => "ok"
  | rejected => "rejected"
  | failed => "failed"

def Outcome.all : List Outcome := [ok, rejected, failed]

/-- The label of an outcome, if it is one. -/
def Outcome.ofLabel? (s : String) : Option Outcome := all.find? (·.label == s)

/-- How often each outcome was recorded. -/
structure OutcomeCounts where
  ok : Nat := 0
  rejected : Nat := 0
  failed : Nat := 0
  deriving Repr, DecidableEq

namespace OutcomeCounts

def get (c : OutcomeCounts) : Outcome → Nat
  | .ok => c.ok
  | .rejected => c.rejected
  | .failed => c.failed

def record (c : OutcomeCounts) : Outcome → OutcomeCounts
  | .ok => { c with ok := c.ok + 1 }
  | .rejected => { c with rejected := c.rejected + 1 }
  | .failed => { c with failed := c.failed + 1 }

/-- All recorded outcomes. -/
def total (c : OutcomeCounts) : Nat := c.ok + c.rejected + c.failed

/-- A sample for each outcome that has been recorded. -/
def samples {α : Type} [Scalar α] (c : OutcomeCounts) : List (Labels × α) :=
  (Outcome.all.filter fun o => 0 < c.get o).map fun o =>
    ([("outcome", o.label)], Scalar.ofNat (c.get o))

theorem get_record (c : OutcomeCounts) (o p : Outcome) :
    (c.record o).get p = c.get p + if p = o then 1 else 0 := by
  cases o <;> cases p <;> simp [record, get]

theorem total_record (c : OutcomeCounts) (o : Outcome) : (c.record o).total = c.total + 1 := by
  cases o <;> simp [record, total] <;> omega

end OutcomeCounts

/-- The instruments of a session. -/
structure SessionMetrics (α : Type) where
  advances : OutcomeCounts := {}
  resets : OutcomeCounts := {}
  stepSeconds : Histogram α
  simulationTime : α
  resultRows : Nat := 0

namespace SessionMetrics

variable {α : Type} [Scalar α]

/-- Nothing recorded. -/
def fresh : SessionMetrics α where
  stepSeconds := .ofBounds (Histogram.doublingBounds 0.0001 20)
  simulationTime := 0.0

omit [Scalar α] in
def recordAdvance (m : SessionMetrics α) (o : Outcome) : SessionMetrics α :=
  { m with advances := m.advances.record o }

omit [Scalar α] in
def recordReset (m : SessionMetrics α) (o : Outcome) : SessionMetrics α :=
  { m with resets := m.resets.record o }

def observeStep (m : SessionMetrics α) (seconds : α) : SessionMetrics α :=
  { m with stepSeconds := m.stepSeconds.observe seconds }

omit [Scalar α] in
/-- Publish the committed time and the size of the log. -/
def setProgress (m : SessionMetrics α) (time : α) (rows : Nat) : SessionMetrics α :=
  { m with simulationTime := time, resultRows := rows }

/-- A count in a signed register of 64 bits, which starts again below zero when it overflows. -/
def wrapped (n : Nat) : α :=
  let k := Int.bmod n (pow2 64)
  if k < 0 then -Scalar.ofNat k.natAbs else Scalar.ofNat k.natAbs

def families (m : SessionMetrics α) : List (Family α) :=
  [{ name := "r_bem_advances_total"
     help := "Advance requests handled by the session, by outcome"
     samples := .counter m.advances.samples },
   { name := "r_bem_resets_total"
     help := "Reset requests handled by the session, by outcome"
     samples := .counter m.resets.samples },
   { name := "r_bem_model_step_seconds"
     help := "Wall time spent in one set/step/get exchange with the model"
     samples := .histogram m.stepSeconds },
   { name := "r_bem_simulation_time_seconds"
     help := "Committed simulation time of the session"
     samples := .gauge [([], m.simulationTime)] },
   { name := "r_bem_result_rows"
     help := "Rows held in the session results log"
     samples := .gauge [([], wrapped m.resultRows)] }]

end SessionMetrics

end BuildingEmulation.Metrics
