import BuildingEmulation.Model.EmulationUnit

/-!
# Paced units

A unit on a machine that has other things to do: a call may be held up before it does anything, for
as long as it happens to be, and then behaves as the call on the unit inside. So any call may miss
its time limit, whatever the unit is.
-/
namespace BuildingEmulation

/-- A unit's state, with how often each of the coming calls is held up. -/
structure Paced (σ : Type) where
  inner : σ
  delays : Nat → Nat

namespace Paced

variable {σ ε β : Type}

/-- Progress of the unit inside, with the delays of the calls after this one. -/
def within (delays : Nat → Nat) : Progress σ ε β → Progress (Paced σ) ε β
  | .returned s b => .returned ⟨s, delays⟩ b
  | .failed s e => .failed ⟨s, delays⟩ e
  | .aborted s => .aborted ⟨s, delays⟩
  | .blocked s resume => .blocked ⟨s, delays⟩ fun s => within s.delays (resume s.inner)

/-- A call that is held up a number of times. -/
def hold : Nat → Call (Paced σ) ε β → Call (Paced σ) ε β
  | 0, c => c
  | n + 1, c => fun s => .blocked s (hold n c)

/-- A call that is held up as often as the next call is. -/
def pace (c : Call σ ε β) : Call (Paced σ) ε β := fun s =>
  hold (s.delays 0) (fun s => within s.delays (c s.inner))
    { s with delays := fun k => s.delays (k + 1) }

end Paced

/-- The unit whose calls may be held up. -/
def EmulationUnit.paced {α σ : Type} (u : EmulationUnit α σ) : EmulationUnit α (Paced σ) where
  metadata := u.metadata
  restart start warmupEnd := Paced.pace (u.restart start warmupEnd)
  set name value := Paced.pace (u.set name value)
  doStep duration := Paced.pace (u.doStep duration)
  get name := Paced.pace (u.get name)

end BuildingEmulation
