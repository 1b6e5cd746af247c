import BuildingEmulation.Toml.Number
import BuildingEmulation.Toml.Table
import BuildingEmulation.Toml.Text

/-!
# Reading TOML

A text is read statement by statement: a key with its value, the header of a table, or the header
of one more among several tables. Lists and tables on one line may be nested only so deep, and keys
may be only so long.
-/
namespace BuildingEmulation.Toml

variable {α : Type} [Scalar α] [Decimal.Numeral α]

/-- How many parts a key may have, and one more than how deep values may be nested. -/
def depthLimit : Nat := 80

/-- A key as the path to a table and a name in it. -/
def splitKey? (parts : List String) : Option (List String × String) :=
  match parts.reverse with
  | [] => none
  | name :: path => some (path.reverse, name)

/-- The parts of a key, split. -/
def keyPath? (cs : List Char) : Option ((List String × String) × List Char) := do
  let (parts, rest) ← key? (depthLimit - 1) cs
  pure (← splitKey? parts, rest)

/-- A value that holds no other. -/
def scalar? (cs : List Char) : Option (Document α × List Char) :=
  match cs with
  | 't' :: 'r' :: 'u' :: 'e' :: rest => some (.bool true, rest)
  | 'f' :: 'a' :: 'l' :: 's' :: 'e' :: rest => some (.bool false, rest)
  | c :: _ =>
    if c = '"' || c = '\x27' then (string? cs).map fun (s, rest) => (.text s, rest)
    else timestamp? cs <|> real? cs <|> integer? cs
  | [] => none

mutual

/-- A value, inside `depth` lists and tables. -/
def value? (depth : Nat) : Nat → List Char → Option (Document α × List Char)
  | 0, _ => none
  | fuel + 1, '[' :: rest =>
    if depthLimit ≤ depth + 1 then none
    else (items? (depth + 1) fuel rest).map fun (items, rest) => (.list items, rest)
  | fuel + 1, '{' :: rest =>
    if depthLimit ≤ depth + 1 then none
    else match skipBlanks rest with
      | '}' :: rest => some (.record [], rest)
      | rest => do
        let (fields, rest) ← pairs? (depth + 1) fuel [] rest
        pure (.record (fieldsToDocument fields), rest)
  | _ + 1, cs => scalar? cs

/-- The items of a list up to its closing bracket. -/
def items? (depth : Nat) : Nat → List Char → Option (List (Document α) × List Char)
  | 0, _ => none
  | fuel + 1, cs => do
    match ← skipLines? (cs.length + 1) cs with
    | ']' :: rest => pure ([], rest)
    | cs =>
      let (d, rest) ← value? depth fuel cs
      match ← skipLines? (rest.length + 1) rest with
      | ',' :: rest =>
        let (items, rest) ← items? depth fuel rest
        pure (d :: items, rest)
      | ']' :: rest => pure ([d], rest)
      | _ => none

/-- The pairs of a table on one line up to its closing brace, added to those already read. -/
def pairs? (depth : Nat) : Nat → Fields α → List Char → Option (Fields α × List Char)
  | 0, _, _ => none
  | fuel + 1, fields, cs => do
    let ((path, name), rest) ← keyPath? cs
    match rest with
    | '=' :: rest =>
      let (d, rest) ← value? depth fuel (skipBlanks rest)
      let fields ← fields.insert path name d
      match skipBlanks rest with
      | ',' :: rest => pairs? depth fuel fields rest
      | '}' :: rest => pure (fields, rest)
      | _ => none
    | _ => none

end

/-- A document as far as it has been read: its fields, and the path of the table that was opened
last. -/
structure Progress (α : Type) where
  fields : Fields α := []
  opened : List String := []

/-- A header that opens one more among several tables, behind its two brackets. -/
def itemHeader? (p : Progress α) (cs : List Char) : Option (Progress α × List Char) := do
  let ((path, name), rest) ← keyPath? cs
  match rest with
  | ']' :: ']' :: rest =>
    pure ({ fields := ← p.fields.openItem path name, opened := path ++ [name] }, ← restOfLine? rest)
  | _ => none

/-- A header that opens a table, behind its bracket. -/
def tableHeader? (p : Progress α) (cs : List Char) : Option (Progress α × List Char) := do
  let ((path, name), rest) ← keyPath? cs
  match rest with
  | ']' :: rest =>
    pure ({ fields := ← p.fields.openTable path name, opened := path ++ [name] }, ← restOfLine? rest)
  | _ => none

/-- A key and its value on a line of their own. -/
def pair? (p : Progress α) (cs : List Char) : Option (Progress α × List Char) := do
  let ((path, name), rest) ← keyPath? cs
  match rest with
  | '=' :: rest =>
    let (d, rest) ← value? 0 (2 * rest.length + 2) (skipBlanks rest)
    let rest ← restOfLine? rest
    pure ({ p with fields := ← p.fields.insertIn p.opened path name d }, rest)
  | _ => none

/-- The statements of a text, at most as many as it has characters. -/
def statements? : Nat → Progress α → List Char → Option (Fields α)
  | 0, _, _ => none
  | fuel + 1, p, cs =>
    match skipBlanks cs with
    | [] => some p.fields
    | '#' :: rest => do statements? fuel p (← lineEnd? (rest.dropWhile isPrintable))
    | '[' :: '[' :: rest => do
      let (p, rest) ← itemHeader? p rest
      statements? fuel p rest
    | '[' :: rest => do
      let (p, rest) ← tableHeader? p rest
      statements? fuel p rest
    | rest =>
      match newLine? rest with
      | some rest => statements? fuel p rest
      | none => do
        let (p, rest) ← pair? p rest
        statements? fuel p rest

/-- The document that a TOML text spells. A byte order mark in front of it is no part of it. -/
def ofToml? (s : String) : Option (Document α) :=
  let cs := match s.toList with
    | '\uFEFF' :: rest => rest
    | cs => cs
  (statements? (cs.length + 1) {} cs).map fun fields => .record (fieldsToDocument fields)

end BuildingEmulation.Toml
