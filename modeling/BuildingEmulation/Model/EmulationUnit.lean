import BuildingEmulation.Metadata
import BuildingEmulation.Model.Progress

/-!
# Emulation units

What a session knows of the model it runs: its signals, and five calls. Everything behind the
calls belongs to the unit. Nothing is assumed of a unit but that it answers `metadata` once; any
other call may fail, abort or block.
-/
namespace BuildingEmulation

/-- A value written to a variable of a unit. -/
inductive UnitValue (α : Type)
  | real (x : α)
  | flag (b : Bool)
  deriving Repr, BEq, DecidableEq

/-- How a unit refuses a call. -/
inductive UnitError
  | unknownVariable (name : String)
  | initialization (reason : String)
  | solver (reason : String)
  deriving Repr, DecidableEq

def UnitError.message : UnitError → String
  | unknownVariable name => s!"unit has no variable named '{name}'"
  | initialization reason => s!"initialization failed: {reason}"
  | solver reason => s!"solver failed: {reason}"

/-- A model over states `σ`. Mirrors `EmulationUnit`, with `restart` for its `initialize`. -/
structure EmulationUnit (α σ : Type) where
  metadata : Metadata α
  /-- Start over at a time and simulate up to the end of the warm-up. -/
  restart : (start warmupEnd : α) → Call σ UnitError Unit
  set : (name : String) → UnitValue α → Call σ UnitError Unit
  /-- Simulate for a duration from the present time. -/
  doStep : (duration : α) → Call σ UnitError Unit
  get : (name : String) → Call σ UnitError α

end BuildingEmulation
