import BuildingEmulation.Csv
import BuildingEmulation.Decimal.Layout
import BuildingEmulation.Scalar
import BuildingEmulation.SignalMap

/-!
# Results log

One row per committed step: the instant the step led to, and every input applied and output
observed. Rows are only ever added at the end, at later and later times.
-/
namespace BuildingEmulation

/-- One committed step. -/
structure ResultRow (α : Type) where
  time : α
  values : SignalMap α
  deriving Repr

/-- The values of one signal, each with its time. -/
structure TimeSeries (α : Type) where
  time : List α
  values : List α
  deriving Repr, BEq

/-- A window of time, ends included; a missing end leaves it open on that side. -/
structure TimeRange (α : Type) where
  start : Option α := none
  stop : Option α := none
  deriving Repr

/-- A row that does not lie behind the last one. -/
inductive LogFault (α : Type)
  | notLater (last next : α)
  deriving Repr

def LogFault.message {α : Type} [Decimal.Numeral α] : LogFault α → String
  | notLater last next =>
    s!"result timestamp {Decimal.plain next} does not follow {Decimal.plain last}"

/-- Mirrors `contains`. -/
def TimeRange.contains {α : Type} [Scalar α] (r : TimeRange α) (time : α) : Bool :=
  (match r.start with | none => true | some s => decide (s ≤ time)) &&
    (match r.stop with | none => true | some e => decide (time ≤ e))

/-- The rows of a session. Mirrors `ResultsStore`. -/
structure ResultsLog (α : Type) where
  rows : Array (ResultRow α) := #[]
  deriving Repr

namespace ResultsLog

variable {α : Type}

def toList (l : ResultsLog α) : List (ResultRow α) := l.rows.toList

def size (l : ResultsLog α) : Nat := l.rows.size

def last? (l : ResultsLog α) : Option (ResultRow α) := l.rows.back?

def clear (_ : ResultsLog α) : ResultsLog α := {}

/-- The names that occur in any row, in order and without repetition. -/
def columns (l : ResultsLog α) : List String :=
  (l.toList.foldl (fun m row => row.values.entries.foldl (fun m (name, _) => m.insert name ()) m)
    SignalMap.empty).names

section

variable [Scalar α]

/-- Whether a row with this time may come next. Mirrors `check_next`. -/
def checkNext (l : ResultsLog α) (time : α) : Except (LogFault α) Unit :=
  match l.last? with
  | some last => if time ≤ last.time then .error (.notLater last.time time) else .ok ()
  | none => .ok ()

/-- Mirrors `append`. -/
def append (l : ResultsLog α) (row : ResultRow α) : Except (LogFault α) (ResultsLog α) := do
  l.checkNext row.time
  pure { rows := l.rows.push row }

/-- The rows in a window. Mirrors `range`. -/
def range (l : ResultsLog α) (r : TimeRange α) : List (ResultRow α) :=
  l.toList.filter fun row => r.contains row.time

/-- The values of a signal in a window; rows that did not record it are passed over. Mirrors
`series`. -/
def series (l : ResultsLog α) (signal : String) (r : TimeRange α) : TimeSeries α :=
  let pairs := (l.range r).filterMap fun row => (row.values.get? signal).map (row.time, ·)
  { time := pairs.map (·.1), values := pairs.map (·.2) }

end

section

variable [Decimal.Numeral α]

/-- The fields of a row under the given columns; a value that was not recorded is left empty. -/
def fields (columns : List String) (row : ResultRow α) : List (List Char) :=
  (Decimal.plain row.time).toList ::
    columns.map fun name =>
      match row.values.get? name with
      | some x => (Decimal.plain x).toList
      | none => []

/-- The log as a table: a column of times, then the signals in the order of their names. Mirrors
`write_csv`. -/
def csv (l : ResultsLog α) : String :=
  let columns := l.columns
  String.ofList (Csv.write ((("time" :: columns).map String.toList) :: l.toList.map (fields columns)))

end

end ResultsLog

end BuildingEmulation
