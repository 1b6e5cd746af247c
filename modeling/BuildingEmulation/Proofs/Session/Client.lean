import BuildingEmulation.Session.Basic
import Mathlib.Data.List.Forall2

/-!
# What a client sees

A client calls a session and reads from it, and sees nothing of it but the answers. Two sessions
are the same to a client if their answers are, apart from what is meant to tell them apart: the
number of a session, and how its computing time compares to simulated time.

Results:
* `collapse_alike`: indicators with the same values are reported with the same values, also where a
  name stands for the last of several.
-/
namespace BuildingEmulation

variable {α σ β ε : Type}

/-! ## Calls and answers -/

/-- All that a client may read from a session. -/
inductive Reading (α : Type)
  | status
  | getStep
  | inputs
  | outputs
  | measurements
  | kpis
  | kpiRecords
  | results (range : TimeRange α)
  | series (signal : String) (range : TimeRange α)
  | csv
  | text

/-- A call of a client; how long it takes is not for the client to say. -/
inductive ClientCall (α : Type)
  | advance (inputs : SignalMap α)
  | reset (step : Option α)
  | setStep (step : α)
  | read (what : Reading α)

/-- What a client learns from a call. -/
inductive ClientAnswer (α : Type)
  | advance (answer : Except (SessionError α) (AdvanceReport α))
  | reset (answer : Except (SessionError α) (ResetReport α))
  | setStep (answer : Except (SessionError α) α)
  | status (status : SessionStatus α)
  | getStep (step : α)
  | inputs (signals : List (InputSignal α))
  | outputs (signals : List OutputSignal)
  | measurements (values : SignalMap α)
  | kpis (values : List (String × α))
  | kpiRecords (records : List (KpiRecord α))
  | results (rows : List (ResultRow α))
  | series (answer : Except (SessionError α) (TimeSeries α))
  | text (text : String)

def ModelError.isTimeout : ModelError α → Bool
  | .timeout _ => true
  | _ => false

/-- The time limit of a model call has passed. -/
def SessionError.isTimeout : SessionError α → Bool
  | .modelStep error | .reset error => error.isTimeout
  | _ => false

/-- The call was given up because its time limit had passed. -/
def timedOut : Except (SessionError α) β → Bool
  | .error e => e.isTimeout
  | .ok _ => false

def ClientAnswer.timedOut : ClientAnswer α → Bool
  | .advance answer => BuildingEmulation.timedOut answer
  | .reset answer => BuildingEmulation.timedOut answer
  | _ => false

namespace Session

variable [Scalar α] [Decimal.Numeral α]

def read (s : Session α σ) : Reading α → ClientAnswer α
  | .status => .status s.status
  | .getStep => .getStep s.getStep
  | .inputs => .inputs s.inputs
  | .outputs => .outputs s.outputs
  | .measurements => .measurements s.measurements
  | .kpis => .kpis s.kpis
  | .kpiRecords => .kpiRecords s.kpiRecords
  | .results range => .results (s.results range)
  | .series signal range => .series (s.series signal range)
  | .csv => .text s.csv
  | .text => .text s.text

/-- A call of a client, which takes `latency` nanoseconds to compute if it is an advance. -/
def answer (latency : Nat) (s : Session α σ) : ClientCall α → Session α σ × ClientAnswer α
  | .advance inputs => ((s.advance latency inputs).1, .advance (s.advance latency inputs).2)
  | .reset step => ((s.reset step).1, .reset (s.reset step).2)
  | .setStep step => ((s.setStep step).1, .setStep (s.setStep step).2)
  | .read what => (s, s.read what)

/-- The answers to calls that are made one after the other, of which the k-th takes `latency k`
nanoseconds to compute. -/
def answers (latency : Nat → Nat) (s : Session α σ) : List (ClientCall α) → List (ClientAnswer α)
  | [] => []
  | call :: rest =>
    (s.answer (latency 0) call).2 ::
      answers (fun k => latency (k + 1)) (s.answer (latency 0) call).1 rest

end Session

/-! ## Answers that are the same to a client -/

/-- The same error, or results that are related. -/
def AnswersAlike (R : β → β → Prop) : Except ε β → Except ε β → Prop
  | .ok a, .ok b => R a b
  | .error e, .error e' => e' = e
  | _, _ => False

/-- The same names with the same values, where a name does not stand for a time ratio. -/
def ValuesAlike (ratio : String → Prop) : List (String × α) → List (String × α) → Prop :=
  List.Forall₂ fun a b => b.1 = a.1 ∧ (b.2 = a.2 ∨ ratio a.1)

structure AdvanceReport.Alike (ratio : String → Prop) (a b : AdvanceReport α) : Prop where
  time : b.time = a.time
  outputs : b.outputs = a.outputs
  kpis : ValuesAlike ratio a.kpis b.kpis
  endOfScenario : b.endOfScenario = a.endOfScenario

/-- Resets that begin different sessions in the same way. -/
structure ResetReport.Alike (a b : ResetReport α) : Prop where
  time : b.time = a.time
  outputs : b.outputs = a.outputs

/-- Sessions that have both begun, or not, and are in the same state. -/
structure SessionStatus.Alike (a b : SessionStatus α) : Prop where
  name : b.name = a.name
  lifecycle : b.lifecycle = a.lifecycle
  begun : b.id.isSome = a.id.isSome
  clock : b.clock = a.clock
  resultRows : b.resultRows = a.resultRows

structure KpiRecord.Alike (ratio : String → Prop) (a b : KpiRecord α) : Prop where
  name : b.name = a.name
  unit : b.unit = a.unit
  cumulative : b.cumulative = a.cumulative
  value : b.value = a.value ∨ ratio a.name

/-- Answers that tell the same, apart from numbers of sessions and values of time ratios. -/
def ClientAnswer.Alike (ratio : String → Prop) : ClientAnswer α → ClientAnswer α → Prop
  | .advance a, .advance b => AnswersAlike (AdvanceReport.Alike ratio) a b
  | .reset a, .reset b => AnswersAlike ResetReport.Alike a b
  | .status a, .status b => a.Alike b
  | .kpis a, .kpis b => ValuesAlike ratio a b
  | .kpiRecords a, .kpiRecords b => List.Forall₂ (KpiRecord.Alike ratio) a b
  | a, b => b = a

/-! ## Indicators that share a name -/

section

variable {ratio : String → Prop} {kept kept' : List (String × α)}

theorem any_name_alike (h : ValuesAlike ratio kept kept') (name : String) :
    kept'.any (·.1 == name) = kept.any (·.1 == name) := by
  induction h with
  | nil => rfl
  | cons hd tl ih => rw [List.any_cons, List.any_cons, ih, hd.1]

theorem replace_alike (h : ValuesAlike ratio kept kept') {name : String} {x y : α}
    (hv : y = x ∨ ratio name) :
    ValuesAlike ratio (kept.map fun e => if e.1 == name then (name, x) else e)
      (kept'.map fun e => if e.1 == name then (name, y) else e) := by
  refine List.rel_map ?_ h
  intro a b hab
  simp only [hab.1]
  split
  · exact ⟨rfl, hv⟩
  · exact hab

/-- Values that are the same stay the same when each name is reported once. -/
theorem collapse_alike {entries entries' : List (String × α)}
    (h : ValuesAlike ratio entries entries') :
    ValuesAlike ratio (collapse entries) (collapse entries') := by
  refine List.rel_foldl (P := ValuesAlike ratio) ?_ .nil h
  rintro kept kept' hk ⟨name, x⟩ ⟨_, y⟩ ⟨rfl, hv⟩
  simp only [any_name_alike hk]
  split
  · exact replace_alike hk hv
  · exact List.rel_append hk (.cons ⟨rfl, hv⟩ .nil)

end

end BuildingEmulation
