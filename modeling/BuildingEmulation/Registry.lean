import BuildingEmulation.Decimal.Layout
import BuildingEmulation.Scalar
import BuildingEmulation.Metadata
import BuildingEmulation.Text.Blank

/-!
# Signal registry

The catalogue of a unit's signals, built once from its metadata: inputs and outputs in the order
in which they are declared, and the outputs under each indicator tag. No two signals share a name.

Results:
* `validateInput_ok_iff`: an input is accepted exactly if it exists and its value is finite and
  within its bounds.
-/
namespace BuildingEmulation

/-- A signal that can be written, with the signal that puts it in force. -/
structure InputSignal (α : Type) where
  name : String
  unit : String
  min : α
  max : α
  activation : String
  description : String
  deriving Repr, BEq

/-- A signal that can be read. -/
structure OutputSignal where
  name : String
  unit : String
  description : String
  kpis : List String
  deriving Repr, BEq

/-- What makes metadata unusable. Mirrors `RegistryError`. -/
inductive RegistryFault (α : Type)
  /-- The position counts overwrite blocks first, then read blocks. -/
  | emptyPath (position : Nat)
  | duplicateSignal (name : String)
  | invalidBounds (name : String) (min max : α)
  | noOutputs
  deriving Repr

def RegistryFault.message {α : Type} [Decimal.Numeral α] : RegistryFault α → String
  | emptyPath position =>
    s!"signal exchange block at position {position} has an empty instance name"
  | duplicateSignal name => s!"signal '{name}' is declared more than once"
  | invalidBounds name min max =>
    s!"input '{name}' has invalid bounds [{Decimal.plain min}, {Decimal.plain max}]"
  | noOutputs => "model declares no output signals"

/-- Why a value is refused for an input. Mirrors `ValidationError`. -/
inductive InputFault (α : Type)
  | unknownSignal
  | outOfRange (value min max : α)
  | notFinite
  deriving Repr

def InputFault.message {α : Type} [Decimal.Numeral α] : InputFault α → String
  | unknownSignal => "unknown signal"
  | outOfRange value min max =>
    s!"value {Decimal.plain value} outside [{Decimal.plain min}, {Decimal.plain max}]"
  | notFinite => "value is not finite"

/-- The signals of a unit. Mirrors `SignalRegistry`. -/
structure Registry (α : Type) where
  inputs : List (InputSignal α)
  outputs : List OutputSignal
  /-- Tags in the order in which they first occur, each with its outputs. -/
  groups : List (String × List String)
  deriving Repr

namespace Registry

variable {α : Type}

/-! ## Building -/

/-- A list of groups with an output added to the group of a tag. -/
def addToGroup (tag output : String) : List (String × List String) → List (String × List String)
  | [] => [(tag, [output])]
  | (t, members) :: rest =>
    if t = tag then (t, members ++ [output]) :: rest else (t, members) :: addToGroup tag output rest

/-- The tags of a block that are not blank, without the blanks around them. -/
def ReadBlock.tags (b : ReadBlock) : List String :=
  (b.kpis.filter fun tag => !Text.isBlankText tag).map Text.trim

/-- The input signal of a block. -/
def inputOf (b : OverwriteBlock α) : InputSignal α where
  name := inputName b.path
  unit := b.unit
  min := b.min
  max := b.max
  activation := activationName b.path
  description := b.description

/-- The output signal of a block. -/
def outputOf (b : ReadBlock) : OutputSignal where
  name := outputName b.path
  unit := b.unit
  description := b.description
  kpis := b.kpis

/-- A set of taken names with one more taken. -/
def claim (taken : List String) (name : String) : Except (RegistryFault α) (List String) :=
  if taken.contains name then .error (.duplicateSignal name) else .ok (name :: taken)

section

variable [Scalar α]

/-- The names taken once a block has claimed its own. -/
def claimInput (taken : List String) (position : Nat) (b : OverwriteBlock α) :
    Except (RegistryFault α) (List String) := do
  if Text.isBlankText b.path then throw (.emptyPath position)
  if !Scalar.isFinite b.min || !Scalar.isFinite b.max || b.max < b.min then
    throw (.invalidBounds (inputName b.path) b.min b.max)
  claim (← claim taken (inputName b.path)) (activationName b.path)

/-- The names taken once all blocks, the first of them at `position`, have claimed their own. -/
def claimInputs (taken : List String) (position : Nat) :
    List (OverwriteBlock α) → Except (RegistryFault α) (List String)
  | [] => .ok taken
  | b :: rest => do claimInputs (← claimInput taken position b) (position + 1) rest

end

def claimOutput (taken : List String) (position : Nat) (b : ReadBlock) :
    Except (RegistryFault α) (List String) := do
  if Text.isBlankText b.path then throw (.emptyPath position)
  claim taken (outputName b.path)

def claimOutputs (taken : List String) (position : Nat) :
    List ReadBlock → Except (RegistryFault α) (List String)
  | [] => .ok taken
  | b :: rest => do claimOutputs (← claimOutput taken position b) (position + 1) rest

/-- The outputs of all blocks under their tags. A block that repeats a tag counts for it again. -/
def groupsOf (blocks : List ReadBlock) : List (String × List String) :=
  blocks.foldl
    (fun groups b => (ReadBlock.tags b).foldl (fun g tag => addToGroup tag (outputName b.path) g) groups)
    []

/-- The registry of well-formed metadata; otherwise the fault of the first block that has one.
Mirrors `from_metadata`. -/
def ofMetadata [Scalar α] (m : Metadata α) : Except (RegistryFault α) (Registry α) := do
  let taken ← claimInputs [] 0 m.overwrite
  let _ ← claimOutputs taken m.overwrite.length m.read
  if m.read.isEmpty then throw .noOutputs
  pure { inputs := m.overwrite.map inputOf, outputs := m.read.map outputOf, groups := groupsOf m.read }

/-! ## Looking up -/

def input? (r : Registry α) (name : String) : Option (InputSignal α) :=
  r.inputs.find? (·.name == name)

def hasOutput (r : Registry α) (name : String) : Bool := r.outputs.any (·.name == name)

/-- Whether a name belongs to an input or an output. -/
def hasSignal (r : Registry α) (name : String) : Bool := (r.input? name).isSome || r.hasOutput name

def inputNames (r : Registry α) : List String := r.inputs.map (·.name)

def outputNames (r : Registry α) : List String := r.outputs.map (·.name)

/-- The outputs under a tag, in the order of declaration. Mirrors `kpi_group`. -/
def group? (r : Registry α) (tag : String) : Option (List String) := r.groups.lookup tag

variable [Scalar α]

/-- Whether a value may be written to an input. Mirrors `validate_input`. -/
def validateInput (r : Registry α) (name : String) (value : α) : Except (InputFault α) Unit :=
  match r.input? name with
  | none => .error .unknownSignal
  | some s =>
    if !Scalar.isFinite value then .error .notFinite
    else if value < s.min || s.max < value then .error (.outOfRange value s.min s.max)
    else .ok ()

theorem validateInput_ok_iff (r : Registry α) (name : String) (value : α) :
    r.validateInput name value = .ok () ↔
      ∃ s, r.input? name = some s ∧ Scalar.isFinite value = true ∧ ¬ value < s.min ∧
        ¬ s.max < value := by
  unfold validateInput
  cases r.input? name with
  | none => simp
  | some s => by_cases h : Scalar.isFinite value = true <;> simp [h]

end Registry

end BuildingEmulation
