import BuildingEmulation.Document.Token

/-!
# Reading JSON

A document is read off the tokens of its text. Fields keep their order, and a name that stands
twice in a record is kept twice.
-/
namespace BuildingEmulation.Document

variable {α : Type}

mutual

/-- A value and the tokens behind it. -/
def value? : Nat → List (Token α) → Option (Document α × List (Token α))
  | 0, _ => none
  | _ + 1, .scalar d :: r => some (d, r)
  | _ + 1, .openList :: .closeList :: r => some (.list [], r)
  | fuel + 1, .openList :: r => (items? fuel r).map fun (items, r) => (.list items, r)
  | _ + 1, .openRecord :: .closeRecord :: r => some (.record [], r)
  | fuel + 1, .openRecord :: r => (fields? fuel r).map fun (fields, r) => (.record fields, r)
  | _ + 1, _ => none

/-- The items of a list up to its closing bracket. -/
def items? : Nat → List (Token α) → Option (List (Document α) × List (Token α))
  | 0, _ => none
  | fuel + 1, ts =>
    match value? fuel ts with
    | some (d, .closeList :: r) => some ([d], r)
    | some (d, .comma :: r) => (items? fuel r).map fun (items, r) => (d :: items, r)
    | _ => none

/-- The fields of a record up to its closing brace. -/
def fields? : Nat → List (Token α) → Option (List (String × Document α) × List (Token α))
  | 0, _ => none
  | fuel + 1, .scalar (.text name) :: .colon :: r =>
    match value? fuel r with
    | some (d, .closeRecord :: r) => some ([(name, d)], r)
    | some (d, .comma :: r) => (fields? fuel r).map fun (fields, r) => ((name, d) :: fields, r)
    | _ => none
  | _ + 1, _ => none

end

/-- The document a sequence of tokens spells, if nothing is left over. -/
def ofTokens? (ts : List (Token α)) : Option (Document α) :=
  match value? (2 * ts.length + 1) ts with
  | some (d, []) => some d
  | _ => none

/-- The document a JSON text spells. -/
def ofJson? [Scalar α] [Decimal.Numeral α] (s : String) : Option (Document α) :=
  ofTokens? (Token.ofBytes s.toUTF8.toList)

end BuildingEmulation.Document
