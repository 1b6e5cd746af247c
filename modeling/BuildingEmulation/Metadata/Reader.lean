import BuildingEmulation.Metadata
import BuildingEmulation.Text.Blank
import BuildingEmulation.Yaml.Reader

/-!
# Reading metadata

Signal metadata out of a text: JSON if it starts with a brace behind blanks, and YAML otherwise.
-/
namespace BuildingEmulation.Metadata

open Document (Shape text? real? listOf?)

/-! ## Shapes -/

def overwriteShape : Shape :=
  .record
    [("instance", true, .text), ("unit", false, .text), ("min", true, .real), ("max", true, .real),
     ("description", false, .text)]

def readShape : Shape :=
  .record
    [("instance", true, .text), ("unit", false, .text), ("description", false, .text),
     ("kpis", false, .list .text)]

def shape : Shape :=
  .record [("overwrite", false, .list overwriteShape), ("read", false, .list readShape)]

/-! ## Decoding -/

variable {α : Type} [Decimal.Numeral α]

def overwriteBlock? (d : Document α) : Option (OverwriteBlock α) := do
  let m ← d.members? .json ["instance", "unit", "min", "max", "description"]
  pure
    { path := ← m.required "instance" text?
      unit := ← m.withDefault "unit" "" text?
      min := ← m.required "min" real?
      max := ← m.required "max" real?
      description := ← m.withDefault "description" "" text? }

def readBlock? (d : Document α) : Option ReadBlock := do
  let m ← d.members? .json ["instance", "unit", "description", "kpis"]
  pure
    { path := ← m.required "instance" text?
      unit := ← m.withDefault "unit" "" text?
      description := ← m.withDefault "description" "" text?
      kpis := ← m.withDefault "kpis" [] (listOf? text?) }

def ofDocument? (d : Document α) : Option (Metadata α) := do
  let m ← d.members? .json ["overwrite", "read"]
  pure
    { overwrite := ← m.withDefault "overwrite" [] (listOf? overwriteBlock?)
      read := ← m.withDefault "read" [] (listOf? readBlock?) }

variable [Scalar α]

/-- The metadata that a text spells. -/
def ofText? (text : String) : Option (Metadata α) :=
  if (Text.trimStart text).startsWith "\x7b" then
    (shape.readJson text.toUTF8.toList).toOption >>= ofDocument?
  else Yaml.read? shape text >>= ofDocument?

end BuildingEmulation.Metadata
