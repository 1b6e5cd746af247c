import BuildingEmulation.Model.EmulationUnit

/-!
# Recorded units

A unit that keeps a record of the calls it receives and of those that have returned, and otherwise
behaves as the unit inside.
-/
namespace BuildingEmulation

/-- A call on a unit, with its arguments. -/
inductive UnitCall (α : Type)
  | restart (start warmupEnd : α)
  | set (name : String) (value : UnitValue α)
  | doStep (duration : α)
  | get (name : String)
  deriving Repr, BEq, DecidableEq

/-- What a record holds. -/
inductive UnitEvent (α : Type)
  /-- The call reached the unit. -/
  | called (call : UnitCall α)
  /-- The call returned without an error. -/
  | returned (call : UnitCall α)
  deriving Repr, BEq, DecidableEq

/-- A unit's state with the record of its calls, the latest at the end. -/
structure Recorded (α σ : Type) where
  inner : σ
  events : Array (UnitEvent α) := #[]

namespace Recorded

variable {α σ ε β : Type}

def note (r : Recorded α σ) (e : UnitEvent α) : Recorded α σ := { r with events := r.events.push e }

/-- Progress of the unit inside, seen with a record that stays as it is until the call ends. -/
def within (call : UnitCall α) (r : Recorded α σ) :
    Progress σ ε β → Progress (Recorded α σ) ε β
  | .returned s b => .returned ({ r with inner := s }.note (.returned call)) b
  | .failed s e => .failed { r with inner := s } e
  | .aborted s => .aborted { r with inner := s }
  | .blocked s resume => .blocked { r with inner := s } fun r => within call r (resume r.inner)

/-- A call that is recorded. -/
def record (call : UnitCall α) (c : Call σ ε β) : Call (Recorded α σ) ε β := fun r =>
  within call (r.note (.called call)) (c r.inner)

/-- The calls that reached the unit, in order. -/
def calls (r : Recorded α σ) : List (UnitCall α) :=
  r.events.toList.filterMap fun
    | .called call => some call
    | .returned _ => none

end Recorded

/-- The unit that records every call. -/
def EmulationUnit.recorded {α σ : Type} (u : EmulationUnit α σ) :
    EmulationUnit α (Recorded α σ) where
  metadata := u.metadata
  restart start warmupEnd :=
    Recorded.record (.restart start warmupEnd) (u.restart start warmupEnd)
  set name value := Recorded.record (.set name value) (u.set name value)
  doStep duration := Recorded.record (.doStep duration) (u.doStep duration)
  get name := Recorded.record (.get name) (u.get name)

end BuildingEmulation
