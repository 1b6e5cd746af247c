import BuildingEmulation.Model.EmulationUnit
import BuildingEmulation.Scalar
import BuildingEmulation.SignalMap

/-!
# Scripted units

A unit for rehearsals: its outputs change at constant rates, new values can be staged for the next
step, and a script says which calls fail, abort or block.
-/
namespace BuildingEmulation

/-- What a scripted unit has been told to do. -/
structure Script (α : Type) where
  failInit : Option String := none
  failStep : Option String := none
  /-- The variable that cannot be written. -/
  failSet : Option String := none
  /-- The output that cannot be read. -/
  dropOutput : Option String := none
  panicStep : Bool := false
  hangStep : Bool := false
  hangInit : Bool := false
  rates : SignalMap α := .empty

/-- The state of a scripted unit. -/
structure ScriptedState (α : Type) where
  script : Script α
  /-- The values after a restart. -/
  initial : SignalMap α
  values : SignalMap α
  staged : SignalMap α

namespace ScriptedState

variable {α : Type}

/-- The state in which a scripted unit starts. -/
def ofScript (script : Script α) (initial staged : SignalMap α) : ScriptedState α :=
  { script, initial, values := initial, staged }

/-- The state once no call is held back any more. -/
def release (s : ScriptedState α) : ScriptedState α :=
  { s with script := { s.script with hangStep := false, hangInit := false } }

/-- What a restart does once it is not held back. -/
def runRestart : Call (ScriptedState α) UnitError Unit := fun s =>
  match s.script.failInit with
  | some reason => .failed s (.initialization reason)
  | none => .returned { s with values := s.initial, staged := .empty } ()

variable [Scalar α]

/-- Values that have grown at constant rates; what has a rate and no value starts at zero. -/
def grow (values : SignalMap α) (rates : SignalMap α) (duration : α) : SignalMap α :=
  rates.entries.foldl
    (fun values (name, rate) => values.insert name ((values.get? name).getD 0.0 + rate * duration))
    values

/-- What a step does once it is not held back. -/
def runStep (duration : α) : Call (ScriptedState α) UnitError Unit := fun s =>
  if s.script.panicStep then .aborted s
  else match s.script.failStep with
    | some reason => .failed s (.solver reason)
    | none =>
      let values := grow (s.values.overwrite s.staged) s.script.rates duration
      .returned { s with values, staged := .empty } ()

end ScriptedState

/-- A call that is held back as long as the script says so. -/
def heldBack {σ ε β : Type} (holds : σ → Bool) (c : Call σ ε β) : Call σ ε β := fun s =>
  if holds s then .blocked s c else c s

/-- The unit with the given signals that does as its script says. -/
def scriptedUnit {α : Type} [Scalar α] (metadata : Metadata α) :
    EmulationUnit α (ScriptedState α) where
  metadata := metadata
  restart _ _ := heldBack (·.script.hangInit) ScriptedState.runRestart
  set name _ := .ofReading fun s =>
    if s.script.failSet = some name then .error (.unknownVariable name) else .ok ()
  doStep duration := heldBack (·.script.hangStep) (ScriptedState.runStep duration)
  get name := .ofReading fun s =>
    if s.script.dropOutput = some name then .error (.unknownVariable name)
    else match s.values.get? name with
      | some x => .ok x
      | none => .error (.unknownVariable name)

end BuildingEmulation
