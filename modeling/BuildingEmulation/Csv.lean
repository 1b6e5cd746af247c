/-!
# Tables of separated values

A table as a text: records on lines, fields between commas. A field that holds a comma, a quote or
a line break stands between quotes, with every quote inside it doubled; a record that would leave
its line empty is written as a pair of quotes.
-/
namespace BuildingEmulation.Csv

/-! ## Writing -/

/-- Whether a field has to be quoted. -/
def needsQuotes (field : List Char) : Bool :=
  field.any fun c => c = ',' || c = '"' || c = '\r' || c = '\n'

/-- A field with every quote doubled. -/
def doubled : List Char → List Char
  | [] => []
  | c :: rest => if c = '"' then '"' :: '"' :: doubled rest else c :: doubled rest

def writeField (field : List Char) : List Char :=
  if needsQuotes field then '"' :: (doubled field ++ ['"']) else field

/-- The fields of a record with commas between them. -/
def joinFields : List (List Char) → List Char
  | [] => []
  | [field] => writeField field
  | field :: rest => writeField field ++ ',' :: joinFields rest

/-- A record on its line. -/
def writeRecord (fields : List (List Char)) : List Char :=
  let line := joinFields fields
  (if line.isEmpty then ['"', '"'] else line) ++ ['\n']

def write (records : List (List (List Char))) : List Char := records.flatMap writeRecord

/-! ## Reading -/

/-- Where a reader stands in a record. -/
inductive Position
  /-- Before the first field of a record. -/
  | recordStart
  /-- Before a field. -/
  | fieldStart
  /-- In a field without quotes. -/
  | bare
  /-- Between the quotes of a field. -/
  | quoted
  /-- Behind a quote inside a quoted field. -/
  | quoteInQuoted
  deriving Repr, DecidableEq

/-- A table as far as it has been read, its records and fields and the last field backwards. -/
structure Progress where
  position : Position := .recordStart
  field : List Char := []
  fields : List (List Char) := []
  records : List (List (List Char)) := []

namespace Progress

def put (p : Progress) (c : Char) (position : Position) : Progress :=
  { p with position, field := c :: p.field }

def endField (p : Progress) : Progress :=
  { p with position := .fieldStart, field := [], fields := p.field.reverse :: p.fields }

def endRecord (p : Progress) : Progress :=
  { position := .recordStart
    records := (p.field.reverse :: p.fields).reverse :: p.records }

/-- A character outside quotes. -/
def bareStep (p : Progress) (c : Char) : Progress :=
  if c = ',' then p.endField
  else if c = '\r' || c = '\n' then p.endRecord
  else p.put c .bare

/-- A character where a field starts. -/
def startStep (p : Progress) (c : Char) : Progress :=
  if c = '"' then { p with position := .quoted } else p.bareStep c

/-- One character further. Empty lines are no records. -/
def step (p : Progress) (c : Char) : Progress :=
  match p.position with
  | .recordStart => if c = '\r' || c = '\n' then p else p.startStep c
  | .fieldStart => p.startStep c
  | .bare => p.bareStep c
  | .quoted => if c = '"' then { p with position := .quoteInQuoted } else p.put c .quoted
  | .quoteInQuoted => if c = '"' then p.put c .quoted else p.bareStep c

/-- The records read once the text has ended. -/
def finish (p : Progress) : List (List (List Char)) :=
  match p.position with
  | .recordStart => p.records.reverse
  | _ => p.endRecord.records.reverse

end Progress

/-- The records of a text. A byte order mark in front of it is no part of the table. -/
def read (text : List Char) : List (List (List Char)) :=
  let text := match text with
    | '\uFEFF' :: rest => rest
    | text => text
  (text.foldl Progress.step {}).finish

end BuildingEmulation.Csv
