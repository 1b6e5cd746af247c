import BuildingEmulation.Document.Token

/-!
# Shapes of documents

What a document has to look like for its reader. Reading a text against a shape takes in only what
the shape asks for: members with other names are passed over, and the first thing that does not fit
decides whether the text is malformed or merely of the wrong shape.
-/
namespace BuildingEmulation.Document

/-- What a document has to look like. -/
inductive Shape
  | text
  | real
  /-- A value, or `null`. -/
  | optional (value : Shape)
  | list (item : Shape)
  /-- A record with any names, whose values are alike. -/
  | table (value : Shape)
  /-- A record with known names, each with a mark on those that must be given. -/
  | record (members : List (String × Bool × Shape))

/-- Why a text is not a document of some shape. -/
inductive ShapeFault
  | malformed
  | mismatched
  deriving DecidableEq, Repr

namespace Shape

variable {α : Type}

/-! ## Passing over values -/

mutual

/-- What follows a value that nobody reads. -/
def skip? : Nat → List (Token α) → Option (List (Token α))
  | 0, _ => none
  | _ + 1, .scalar _ :: r | _ + 1, .valueless _ :: r => some r
  | _ + 1, .openList :: .closeList :: r | _ + 1, .openRecord :: .closeRecord :: r => some r
  | fuel + 1, .openList :: r => skipItems? fuel r
  | fuel + 1, .openRecord :: r => skipFields? fuel r
  | _ + 1, _ => none

/-- What follows the items of a list and its closing bracket. -/
def skipItems? : Nat → List (Token α) → Option (List (Token α))
  | 0, _ => none
  | fuel + 1, ts =>
    match skip? fuel ts with
    | some (.closeList :: r) => some r
    | some (.comma :: r) => skipItems? fuel r
    | _ => none

/-- What follows the fields of a record and its closing brace. -/
def skipFields? : Nat → List (Token α) → Option (List (Token α))
  | 0, _ => none
  | fuel + 1, .scalar (.text _) :: .colon :: r | fuel + 1, .valueless true :: .colon :: r =>
    match skip? fuel r with
    | some (.closeRecord :: r) => some r
    | some (.comma :: r) => skipFields? fuel r
    | _ => none
  | _ + 1, _ => none

end

/-! ## Reading against a shape -/

/-- What is wrong where a value of another shape was expected. -/
def refusal : List (Token α) → ShapeFault
  | .scalar _ :: _ | .openList :: _ | .openRecord :: _ => .mismatched
  | _ => .malformed

/-- Whether a member that must be given is missing. -/
def lacksAny (members : List (String × Bool × Shape)) (given : List String) : Bool :=
  members.any fun (name, isRequired, _) => isRequired && !given.contains name

/-- A record that ends here, if nothing is missing from it. -/
def close (members : List (String × Bool × Shape)) (fields : List (String × Document α))
    (r : List (Token α)) : Except ShapeFault (List (String × Document α) × List (Token α)) :=
  if lacksAny members (fields.map (·.1)) then .error .mismatched else .ok (fields, r)

mutual

/-- A value of a shape. A list may stand for a record and gives the members in their order. -/
def read : Nat → Shape → List (Token α) → Except ShapeFault (Document α × List (Token α))
  | 0, _, _ => .error .malformed
  | _ + 1, .text, .scalar (.text s) :: r => .ok (.text s, r)
  | _ + 1, .real, .scalar (.real x) :: r => .ok (.real x, r)
  | _ + 1, .real, .scalar (.integer n) :: r => .ok (.integer n, r)
  | _ + 1, .optional _, .scalar .null :: r => .ok (.null, r)
  | fuel + 1, .optional value, ts => read fuel value ts
  | _ + 1, .list _, .openList :: .closeList :: r => .ok (.list [], r)
  | fuel + 1, .list item, .openList :: r => do
    let (items, r) ← readItems fuel item r
    pure (.list items, r)
  | _ + 1, .table _, .openRecord :: .closeRecord :: r => .ok (.record [], r)
  | fuel + 1, .table value, .openRecord :: r => do
    let (fields, r) ← readTable fuel value r
    pure (.record fields, r)
  | fuel + 1, .record members, .openRecord :: r => do
    let (fields, r) ← match r with
      | .closeRecord :: r => close members [] r
      | r => readFields fuel members [] r
    pure (.record fields, r)
  | fuel + 1, .record members, .openList :: r => do
    let (fields, r) ← match r with
      | .closeList :: r => close members [] r
      | r => readPositions fuel members members [] r
    pure (.record fields, r)
  | _ + 1, _, ts => .error (refusal ts)

/-- The items of a list up to its closing bracket. -/
def readItems : Nat → Shape → List (Token α) →
    Except ShapeFault (List (Document α) × List (Token α))
  | 0, _, _ => .error .malformed
  | fuel + 1, item, ts => do
    let (d, r) ← read fuel item ts
    match r with
    | .closeList :: r => pure ([d], r)
    | .comma :: r =>
      let (items, r) ← readItems fuel item r
      pure (d :: items, r)
    | _ => .error .malformed

/-- The fields of a table up to its closing brace. -/
def readTable : Nat → Shape → List (Token α) →
    Except ShapeFault (List (String × Document α) × List (Token α))
  | 0, _, _ => .error .malformed
  | fuel + 1, value, .scalar (.text name) :: .colon :: r => do
    let (d, r) ← read fuel value r
    match r with
    | .closeRecord :: r => pure ([(name, d)], r)
    | .comma :: r =>
      let (fields, r) ← readTable fuel value r
      pure ((name, d) :: fields, r)
    | _ => .error .malformed
  | _ + 1, _, _ => .error .malformed

/-- The fields of a record up to its closing brace, after those that came before. A member may be
given once. -/
def readFields : Nat → List (String × Bool × Shape) → List (String × Document α) →
    List (Token α) →
    Except ShapeFault (List (String × Document α) × List (Token α))
  | 0, _, _, _ => .error .malformed
  | fuel + 1, members, before, .scalar (.text name) :: r => do
    let (fields, r) : List (String × Document α) × List (Token α) ←
      match members.lookup name, r with
      | none, .colon :: r =>
        match skip? fuel r with
        | none => .error .malformed
        | some r => pure (before, r)
      | some (_, shape), r =>
        if before.any (·.1 == name) then .error .mismatched
        else match r with
          | .colon :: r => do
            let (d, r) ← read fuel shape r
            pure (before ++ [(name, d)], r)
          | _ => .error .malformed
      | _, _ => .error .malformed
    match r with
    | .closeRecord :: r => close members fields r
    | .comma :: r => readFields fuel members fields r
    | _ => .error .malformed
  | _ + 1, _, _, _ => .error .malformed

/-- The values of the members that are left, up to a closing bracket, after those that came
before. -/
def readPositions : Nat → List (String × Bool × Shape) → List (String × Bool × Shape) →
    List (String × Document α) → List (Token α) →
    Except ShapeFault (List (String × Document α) × List (Token α))
  | 0, _, _, _, _ => .error .malformed
  | _ + 1, _, [], _, _ => .error .malformed
  | fuel + 1, members, (name, _, shape) :: left, before, ts => do
    let (d, r) ← read fuel shape ts
    let fields := before ++ [(name, d)]
    match r, left with
    | .closeList :: r, _ => close members fields r
    | .comma :: .closeList :: _, _ | .comma :: _, [] => .error .malformed
    | .comma :: r, left => readPositions fuel members left fields r
    | _, _ => .error .malformed

end

/-- The value of a shape that a JSON text starts with, and the tokens behind it. -/
def readFirst [Scalar α] [Decimal.Numeral α] (shape : Shape) (bytes : List UInt8) :
    Except ShapeFault (Document α × List (Token α)) :=
  let ts := Token.ofBytes bytes
  shape.read (4 * ts.length + 4) ts

/-- The value of a shape that a JSON text is. -/
def readJson [Scalar α] [Decimal.Numeral α] (shape : Shape) (bytes : List UInt8) :
    Except ShapeFault (Document α) :=
  match shape.readFirst bytes with
  | .error fault => .error fault
  | .ok (d, []) => .ok d
  | .ok (_, _ :: _) => .error .malformed

end Shape

end BuildingEmulation.Document
