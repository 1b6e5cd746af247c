import BuildingEmulation.Csv
import BuildingEmulation.FileStore
import BuildingEmulation.ResultsLog

/-!
# Reference files

A reference trajectory is kept in a file as a table with the columns `time` and `value`. On reading
the columns may stand in any order and among others.

Results:
* `write_of_length_ne`: a series with unequal lengths is not written, and no file is touched.
-/
namespace BuildingEmulation.Reference

/-- Why a reference file cannot be written or read. -/
inductive FileFault
  | ragged (times values : Nat)
  | notCreated (path : String)
  | noFile (path : String)
  | malformedRow (path : String)
  deriving Repr, DecidableEq

def FileFault.message : FileFault → String
  | ragged times values => s!"reference series has {times} timestamps but {values} values"
  | notCreated path => s!"failed to create reference file {path}"
  | noFile path => s!"failed to open reference file {path}"
  | malformedRow path => s!"malformed reference row in {path}"

def timeColumn : List Char := "time".toList

def valueColumn : List Char := "value".toList

section

variable {α : Type} [Decimal.Numeral α]

/-- The text of a number in a reference file. -/
def numberText (x : α) : List Char := (Decimal.Numeral.toLiteral .even x).compactChars

/-- The table of a series, headed unless it is empty. -/
def tableText (s : TimeSeries α) : List Char :=
  if s.time.isEmpty then []
  else Csv.write ([timeColumn, valueColumn] ::
    s.time.zipWith (fun t v => [numberText t, numberText v]) s.values)

/-- Write a series to a file. Mirrors `write_reference`. -/
def write (files : FileStore) (path : String) (s : TimeSeries α) :
    FileStore × Except FileFault Unit :=
  if s.time.length ≠ s.values.length then (files, .error (.ragged s.time.length s.values.length))
  else match files.write? path (String.ofList (tableText s)) with
    | some files => (files, .ok ())
    | none => (files, .error (.notCreated path))

/-- A number as it stands in a field. -/
def number? (field : List Char) : Option α :=
  (Decimal.Literal.ofChars? field).map Decimal.Numeral.ofLiteral

/-- The field under a column that the header names exactly once. -/
def fieldUnder? (header fields : List (List Char)) (column : List Char) : Option (List Char) :=
  if header.count column = 1 then (header.zip fields).lookup column else none

/-- The time and value of a record with as many fields as the header. -/
def row? (header fields : List (List Char)) : Option (α × α) := do
  if header.length ≠ fields.length then none
  let time ← fieldUnder? header fields timeColumn >>= number?
  let value ← fieldUnder? header fields valueColumn >>= number?
  pure (time, value)

/-- The series that a table holds. -/
def series? (text : List Char) : Option (TimeSeries α) :=
  match Csv.read text with
  | [] => some { time := [], values := [] }
  | header :: records =>
    (records.mapM (row? header)).map fun rows =>
      { time := rows.map (·.1), values := rows.map (·.2) }

/-- Read the series in a file. Mirrors `read_reference`. -/
def read (files : FileStore) (path : String) : Except FileFault (TimeSeries α) :=
  match files.read? path with
  | none => .error (.noFile path)
  | some text =>
    match series? text.toList with
    | some s => .ok s
    | none => .error (.malformedRow path)

theorem write_of_length_ne (files : FileStore) (path : String) {s : TimeSeries α}
    (h : s.time.length ≠ s.values.length) :
    write files path s = (files, .error (.ragged s.time.length s.values.length)) := by
  simp [write, h]

end

end BuildingEmulation.Reference
