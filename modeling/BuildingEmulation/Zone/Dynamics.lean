import BuildingEmulation.Calendar
import BuildingEmulation.Model.Progress
import BuildingEmulation.Zone.Parameters

/-!
# Dynamics of the zone

One body of air that exchanges heat with the outdoors, whose temperature swings through the day,
and with a heater. A proportional controller drives the heater towards the setpoint; both the
setpoint and the power can be overridden. A step is cut into equal substeps of at most a minute.

Results:
* `commandedPower?_isSome_iff`: there is a power to command unless the largest power is below zero.
-/
namespace BuildingEmulation

/-- A value from outside, in force while it is active. -/
structure Override (α : Type) where
  value : α
  active : Bool
  deriving Repr, BEq

/-- The state of the zone. -/
structure ZoneState (α : Type) where
  time : α
  temperature : α
  heatingPower : α
  setpoint : Override α
  power : Override α
  deriving Repr, BEq

/-- A zone: its parameters, and the course of the outdoor temperature through the day as a wave
between minus one and one that is highest at midnight. Mirrors `SimpleRcZone`. -/
structure Zone (α : Type) where
  parameters : ZoneParameters α
  wave : α → α

/-- How the zone refuses to simulate. -/
inductive ZoneFault (α : Type)
  | invalidDuration (duration : α)
  | leftRange (temperature time : α)
  | warmupPrecedes (warmupEnd start : α)
  deriving Repr

def ZoneFault.message {α : Type} [Scalar α] [Decimal.Numeral α] : ZoneFault α → String
  | invalidDuration duration => s!"invalid step duration {Decimal.plain duration}"
  | leftRange temperature time =>
    s!"zone temperature {Decimal.fixed 2 temperature} K left the physical range at t={Decimal.fixed 0 time}"
  | warmupPrecedes warmupEnd start =>
    s!"warmup end {Decimal.plain warmupEnd} precedes start {Decimal.plain start}"

namespace Zone

variable {α : Type} [Scalar α]

/-- The longest substep. -/
def maxSubstep : α := 60.0

def minPlausible : α := 200.0

def maxPlausible : α := 400.0

def noOverride : Override α := { value := 0.0, active := false }

/-- The state before any initialization. -/
def start (z : Zone α) (time : α) : ZoneState α where
  time := time
  temperature := z.parameters.initialTemperature
  heatingPower := 0.0
  setpoint := noOverride
  power := noOverride

/-- The outdoor temperature, lowest at midnight and highest at noon. Mirrors `outdoor_temperature`. -/
@[inline] def outdoor (z : Zone α) (time : α) : α :=
  z.parameters.outdoorMean - z.parameters.outdoorAmplitude * z.wave time

/-- The power that is asked of the heater. -/
@[inline] def demand (z : Zone α) (s : ZoneState α) : α :=
  if s.power.active then s.power.value
  else z.parameters.gain *
    ((if s.setpoint.active then s.setpoint.value else z.parameters.setpoint) - s.temperature)

/-- The power of the heater; there is none to choose if its largest power is not at least zero.
Mirrors `commanded_power`. -/
@[inline] def commandedPower? (z : Zone α) (s : ZoneState α) : Option α :=
  Scalar.clamp? 0.0 z.parameters.maxPower (z.demand s)

/-- The state after a substep under a power. -/
@[inline] def substep (z : Zone α) (s : ZoneState α) (power dt : α) : ZoneState α :=
  let flux := power + z.parameters.conductance * (z.outdoor s.time - s.temperature)
  { s with
    temperature := s.temperature + flux / z.parameters.capacitance * dt
    heatingPower := power
    time := s.time + dt }

/-- Whether a temperature can occur in a building. -/
@[inline] def isPlausible (temperature : α) : Bool :=
  minPlausible ≤ temperature && temperature ≤ maxPlausible

/-- A number of substeps, up to one that leads out of the plausible range. -/
@[specialize] def substeps (z : Zone α) (dt : α) : Nat → Call (ZoneState α) (ZoneFault α) Unit
  | 0 => fun s => .returned s ()
  | n + 1 => fun s =>
    match z.commandedPower? s with
    | none => .aborted s
    | some power =>
      let next := z.substep s power dt
      if isPlausible next.temperature then z.substeps dt n next
      else .failed next (.leftRange next.temperature next.time)

/-- Into how many substeps a duration is cut. -/
def substepCount (duration : α) : Nat :=
  max 1 ((Scalar.ceil? (duration / maxSubstep)).getD 1).toNat

/-- Simulate for a duration. The substeps are counted in 64 bits. Mirrors `integrate`. -/
def integrate (z : Zone α) (duration : α) : Call (ZoneState α) (ZoneFault α) Unit := fun s =>
  if !Scalar.isFinite duration || duration < 0.0 then .failed s (.invalidDuration duration)
  else if duration == 0.0 then .returned s ()
  else
    let count := substepCount duration
    z.substeps (duration / Scalar.ofNat count) (min count (pow2 64 - 1)) s

/-- Start over at a time and simulate up to the end of the warm-up. Mirrors `initialize`. -/
def warmUp (z : Zone α) (time warmupEnd : α) : Call (ZoneState α) (ZoneFault α) Unit := fun s =>
  if !Scalar.isFinite time || warmupEnd < time then .failed s (.warmupPrecedes warmupEnd time)
  else z.integrate (warmupEnd - time) (z.start time)

theorem commandedPower?_isSome_iff (z : Zone α) (s : ZoneState α) :
    (z.commandedPower? s).isSome ↔ (0.0 : α) ≤ z.parameters.maxPower :=
  Scalar.clamp?_isSome_iff

end Zone

end BuildingEmulation
