import BuildingEmulation.Power
import BuildingEmulation.Decimal.Literal

/-!
# Documents

The value of a data document: scalars, lists, and records that keep the order of their fields and
may name a field twice. `Members` reads a structure out of one, by name from a record or by
position from a list; `Dialect` says where two notations for documents differ in that.

Results:
* `members?_record`: a record without repeated names is read by name.
-/
namespace BuildingEmulation

/-- The value of a data document over a type of reals. -/
inductive Document (α : Type)
  | null
  | bool (b : Bool)
  | integer (n : Int)
  | real (x : α)
  | text (s : String)
  | list (items : List (Document α))
  | record (fields : List (String × Document α))
  deriving Repr, BEq

/-- How a notation lets a value stand for a structure or a choice. -/
structure Dialect where
  /-- A list may hold more items than the structure has members. -/
  ignoresExtraItems : Bool
  /-- What may stand as the body of a choice written as a record with one field. -/
  emptyBody : {α : Type} → Document α → Bool

/-- JSON takes a list only if no item is left over, and `null` as the body of a choice. -/
def Dialect.json : Dialect where
  ignoresExtraItems := false
  emptyBody
    | .null => true
    | _ => false

/-- TOML passes over items that are left, and takes an empty table or list as the body of a
choice. -/
def Dialect.toml : Dialect where
  ignoresExtraItems := true
  emptyBody
    | .list [] | .record [] => true
    | _ => false

/-- The members of a structure that a document gives, each at most once. -/
structure Members (α : Type) where
  entries : List (String × Document α)

namespace Members

variable {α : Type}

def get? (m : Members α) (name : String) : Option (Document α) := m.entries.lookup name

/-- A member that must be given. -/
def required {β : Type} (m : Members α) (name : String) (read : Document α → Option β) :
    Option β :=
  m.get? name >>= read

/-- A member that takes a default when it is not given. -/
def withDefault {β : Type} (m : Members α) (name : String) (default : β)
    (read : Document α → Option β) : Option β :=
  match m.get? name with
  | none => some default
  | some d => read d

end Members

namespace Document

variable {α : Type}

/-- Whether a name stands in a list of fields more than once. -/
def repeats (fields : List (String × Document α)) (name : String) : Bool :=
  1 < (fields.filter (·.1 == name)).length

/-- The members of a structure with the given member names. A record gives them by name, and
fields with other names are passed over; a list gives them in order. -/
def members? (dialect : Dialect) (names : List String) : Document α → Option (Members α)
  | .record fields =>
    if names.any (repeats fields) then none
    else some ⟨names.filterMap fun name => (fields.lookup name).map (name, ·)⟩
  | .list items =>
    if !dialect.ignoresExtraItems && names.length < items.length then none
    else some ⟨names.zip items⟩
  | _ => none

def bool? : Document α → Option Bool
  | .bool b => some b
  | _ => none

def text? : Document α → Option String
  | .text s => some s
  | _ => none

/-- A whole number from `low` to `high`. -/
def integer? (low high : Int) : Document α → Option Int
  | .integer n => if low ≤ n && n ≤ high then some n else none
  | _ => none

/-- A whole number that fits in `bits` bits without a sign. -/
def natural? (bits : Nat) (d : Document α) : Option Nat :=
  (integer? 0 (pow2 bits - 1) d).map Int.toNat

/-- A real, written with or without a point. -/
def real? [Decimal.Numeral α] : Document α → Option α
  | .real x => some x
  | .integer n => some (Decimal.Numeral.ofLiteral (.finite (n < 0) n.natAbs 0))
  | _ => none

/-- A list whose items all can be read. -/
def listOf? {β : Type} (read : Document α → Option β) : Document α → Option (List β)
  | .list items => items.mapM read
  | _ => none

/-- A value that may be missing. -/
def optional? {β : Type} (read : Document α → Option β) : Document α → Option (Option β)
  | .null => some none
  | d => (read d).map some

/-- A choice among named alternatives: its name, or a record with that name as its only field. -/
def choice? {β : Type} (dialect : Dialect) (ofName? : String → Option β) : Document α → Option β
  | .text s => ofName? s
  | .record [(name, body)] => if dialect.emptyBody body then ofName? name else none
  | _ => none

/-- The value of a field, the last one if the name is repeated. -/
def field? (d : Document α) (name : String) : Option (Document α) :=
  match d with
  | .record fields => fields.reverse.lookup name
  | _ => none

def ofOption {β : Type} (write : β → Document α) : Option β → Document α
  | none => .null
  | some b => write b

end Document

theorem Document.members?_record {α : Type} (dialect : Dialect) (names : List String)
    (fields : List (String × Document α)) (h : names.any (repeats fields) = false) :
    (Document.record fields).members? dialect names =
      some ⟨names.filterMap fun name => (fields.lookup name).map (name, ·)⟩ := by
  simp [members?, h]

end BuildingEmulation
