/-!
# Signal metadata

What a unit says about the signals it exchanges: blocks whose value can be overwritten from
outside, and blocks that can only be read. A block stands under a dotted path; the names of the
signals it contributes are made from that path.
-/
namespace BuildingEmulation

/-- A value that can be overwritten, within bounds. -/
structure OverwriteBlock (α : Type) where
  path : String
  unit : String := ""
  min : α
  max : α
  description : String := ""
  deriving Repr, BEq

/-- A value that can be read, and the indicator tags it carries. -/
structure ReadBlock where
  path : String
  unit : String := ""
  description : String := ""
  kpis : List String := []
  deriving Repr, BEq

/-- Mirrors `ModelMetadata`. -/
structure Metadata (α : Type) where
  overwrite : List (OverwriteBlock α) := []
  read : List ReadBlock := []
  deriving Repr, BEq

/-- A path as the start of a signal name. -/
def baseName (path : String) : String := path.map fun c => if c = '.' then '_' else c

/-- The signal that carries an overwriting value. Mirrors `variable_name` in its overwrite style. -/
def inputName (path : String) : String := baseName path ++ "_u"

/-- The signal that says whether the overwriting value is in force. Mirrors `variable_name` in its
activation style. -/
def activationName (path : String) : String := baseName path ++ "_activate"

/-- The signal that carries a reading. Mirrors `variable_name` in its read style. -/
def outputName (path : String) : String := baseName path ++ "_y"

end BuildingEmulation
