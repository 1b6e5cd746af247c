import BuildingEmulation.Document

/-!
# Tables of TOML

A document grows table by table. A table may be opened once by its own header, a table that only
exists because one below it was named may still be opened, and a table made by a dotted key can only
grow by dotted keys from the same place.
-/
namespace BuildingEmulation.Toml

/-- How a table came about. -/
inductive Origin
  /-- By its own header, or as the document itself. -/
  | header
  /-- As the parent in the header of another table. -/
  | parent
  /-- As the parent in a dotted key. -/
  | dottedKey
  deriving Repr, DecidableEq

/-- A part of a document under construction. -/
inductive Node (α : Type)
  | value (d : Document α)
  | table (origin : Origin) (fields : List (String × Node α))
  /-- Tables that share a header, each with its fields. -/
  | tables (items : List (List (String × Node α)))

/-- The fields of a table under construction. -/
abbrev Fields (α : Type) := List (String × Node α)

namespace Fields

variable {α : Type}

/-- Fields with one of them changed, or added behind the others. -/
def put (name : String) (node : Node α) : Fields α → Fields α
  | [] => [(name, node)]
  | (k, v) :: rest => if k = name then (k, node) :: rest else (k, v) :: put name node rest

/-- Change the fields of the table that a path leads to; `f` learns how that table came about. Where
the path leads through no table yet, `origin` says how one comes about. A path through tables that
share a header leads through the last of them. -/
def within (origin : Origin) (f : Origin → Fields α → Option (Fields α)) :
    Origin → List String → Fields α → Option (Fields α)
  | here, [], fields => f here fields
  | _, name :: path, fields =>
    match fields.lookup name with
    | none => do pure (fields.put name (.table origin (← within origin f origin path [])))
    | some (.value _) => none
    | some (.table there inner) =>
      if origin = .dottedKey && there = .header then none
      else do pure (fields.put name (.table there (← within origin f there path inner)))
    | some (.tables items) =>
      match items.reverse with
      | [] => none
      | last :: before => do
        let last ← within origin f .header path last
        pure (fields.put name (.tables (last :: before).reverse))

/-- Set a key that is not there yet, behind a dotted path. -/
def insert (path : List String) (name : String) (d : Document α) (fields : Fields α) :
    Option (Fields α) :=
  within .dottedKey
    (fun origin fields =>
      if !path.isEmpty && origin ≠ .dottedKey then none
      else if (fields.lookup name).isSome then none
      else some (fields.put name (.value d)))
    .header path fields

/-- Open a table by its header. -/
def openTable (path : List String) (name : String) (fields : Fields α) : Option (Fields α) :=
  within .parent
    (fun _ fields =>
      match fields.lookup name with
      | none => some (fields.put name (.table .header []))
      | some (.table .parent inner) => some (fields.put name (.table .header inner))
      | some _ => none)
    .header path fields

/-- Open one more of the tables that share a header. -/
def openItem (path : List String) (name : String) (fields : Fields α) : Option (Fields α) :=
  within .parent
    (fun _ fields =>
      match fields.lookup name with
      | none => some (fields.put name (.tables [[]]))
      | some (.tables items) => some (fields.put name (.tables (items ++ [[]])))
      | some _ => none)
    .header path fields

/-- Set a key in the table that was opened last, whose path is `opened`. -/
def insertIn (opened path : List String) (name : String) (d : Document α) (fields : Fields α) :
    Option (Fields α) :=
  within .parent (fun _ fields => insert path name d fields) .header opened fields

end Fields

mutual

/-- A finished part of a document. -/
def Node.toDocument {α : Type} : Node α → Document α
  | .value d => d
  | .table _ fields => .record (fieldsToDocument fields)
  | .tables items => .list (itemsToDocument items)

def fieldsToDocument {α : Type} : List (String × Node α) → List (String × Document α)
  | [] => []
  | (name, node) :: rest => (name, node.toDocument) :: fieldsToDocument rest

def itemsToDocument {α : Type} : List (List (String × Node α)) → List (Document α)
  | [] => []
  | fields :: rest => .record (fieldsToDocument fields) :: itemsToDocument rest

end

end BuildingEmulation.Toml
