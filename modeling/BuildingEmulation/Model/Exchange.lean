import BuildingEmulation.Model.EmulationUnit
import BuildingEmulation.Registry
import BuildingEmulation.SignalMap
import BuildingEmulation.TimeLimit
import BuildingEmulation.Text.Quoted

/-!
# Exchanges with a unit

A model is a unit with the registry of its signals. An exchange writes the inputs in the order of
declaration, lets the unit step, and reads every output. An input that is not supplied has its
activation cleared, so the unit's own controller takes over.
-/
namespace BuildingEmulation

/-- How a call on a model fails. Mirrors `AdapterError`. -/
inductive ModelError (α : Type)
  | unit (error : UnitError)
  | timeout (limit : TimeLimit)
  /-- The worker that ran the call was lost. -/
  | worker
  | outputNotFinite (name : String) (value : α)
  deriving Repr

def ModelError.message {α : Type} [Decimal.Numeral α] : ModelError α → String
  | unit error => error.message
  | timeout limit => s!"model call exceeded {limit.text}"
  | worker => "model worker aborted"
  | outputNotFinite name value =>
    s!"output '{name}' returned non-finite value {Decimal.plain value}"

/-- A unit and the registry built from its metadata. Mirrors `ModelAdapter`. -/
structure Model (α σ : Type) where
  unit : EmulationUnit α σ
  registry : Registry α

namespace Model

variable {α σ : Type}

def ofUnit [Scalar α] (unit : EmulationUnit α σ) : Except (RegistryFault α) (Model α σ) := do
  pure { unit, registry := ← Registry.ofMetadata unit.metadata }

/-- A call on the unit as a call on the model. -/
def lift {β : Type} (c : Call σ UnitError β) : Call σ (ModelError α) β := c.mapError .unit

/-- Mirrors `initialize`. -/
def restart (m : Model α σ) (start warmupEnd : α) : Call σ (ModelError α) Unit :=
  lift (m.unit.restart start warmupEnd)

/-- One input: its value and a raised activation if it is supplied, else a cleared activation. -/
def writeInput (m : Model α σ) (inputs : SignalMap α) (s : InputSignal α) :
    Call σ (ModelError α) Unit :=
  match inputs.get? s.name with
  | some x => do
    lift (m.unit.set s.name (.real x))
    lift (m.unit.set s.activation (.flag true))
  | none => lift (m.unit.set s.activation (.flag false))

def writeInputs (m : Model α σ) (inputs : SignalMap α) :
    List (InputSignal α) → Call σ (ModelError α) Unit
  | [] => pure ()
  | s :: rest => do
    m.writeInput inputs s
    m.writeInputs inputs rest

/-- Write the inputs that are supplied and release the others. Mirrors `set_inputs`. -/
def setInputs (m : Model α σ) (inputs : SignalMap α) : Call σ (ModelError α) Unit :=
  m.writeInputs inputs m.registry.inputs

/-- Mirrors `do_step`. -/
def doStep (m : Model α σ) (duration : α) : Call σ (ModelError α) Unit :=
  lift (m.unit.doStep duration)

variable [Scalar α]

/-- The outputs read from here on, added to those already read. -/
def readOutputs (m : Model α σ) (read : SignalMap α) :
    List OutputSignal → Call σ (ModelError α) (SignalMap α)
  | [] => pure read
  | s :: rest => do
    let x ← lift (m.unit.get s.name)
    if Scalar.isFinite x then m.readOutputs (read.insert s.name x) rest
    else .fail (.outputNotFinite s.name x)

/-- Every output, if all are finite. Mirrors `get_outputs`. -/
def getOutputs (m : Model α σ) : Call σ (ModelError α) (SignalMap α) :=
  m.readOutputs .empty m.registry.outputs

/-- Start over, and read the outputs at the end of the warm-up. Mirrors the call that `reset_locked`
makes on the model. -/
def warmUp (m : Model α σ) (start warmupEnd : α) : Call σ (ModelError α) (SignalMap α) := do
  m.restart start warmupEnd
  m.getOutputs

/-- Write the inputs, step, and read the outputs. Mirrors `exchange`. -/
def exchange (m : Model α σ) (inputs : SignalMap α) (duration : α) :
    Call σ (ModelError α) (SignalMap α) := do
  m.setInputs inputs
  m.doStep duration
  m.getOutputs

/-- A description of the model for people. -/
def text (m : Model α σ) : String :=
  let inputs := Text.quotedList m.registry.inputNames
  let outputs := Text.quotedList m.registry.outputNames
  "ModelAdapter \x7b inputs: " ++ inputs ++ ", outputs: " ++ outputs ++ ", .. \x7d"

end Model

end BuildingEmulation
