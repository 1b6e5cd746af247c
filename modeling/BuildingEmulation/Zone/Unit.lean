import BuildingEmulation.Model.EmulationUnit
import BuildingEmulation.Zone.Dynamics

/-!
# The zone as a unit

The signals of the zone: the setpoint and the heater power can be overridden; the air temperature,
the heater power and the outdoor temperature can be read.
-/
namespace BuildingEmulation.Zone

def setpointPath : String := "oveTSetHea"

def powerPath : String := "oveHeaPow"

def temperaturePath : String := "TRooAir"

def heatingPath : String := "PHea"

def outdoorPath : String := "weaTDryBul"

section

variable {α : Type} [Scalar α]

def minSetpoint : α := 283.15

def maxSetpoint : α := 313.15

/-- Mirrors `metadata`. -/
def metadata (p : ZoneParameters α) : Metadata α where
  overwrite :=
    [{ path := setpointPath, unit := "K", min := minSetpoint, max := maxSetpoint
       description := "Zone heating setpoint" },
     { path := powerPath, unit := "W", min := 0.0, max := p.maxPower
       description := "Heater thermal power" }]
  read :=
    [{ path := temperaturePath, unit := "K", description := "Zone air temperature"
       kpis := ["comfort"] },
     { path := heatingPath, unit := "W", description := "Heater thermal power", kpis := ["power"] },
     { path := outdoorPath, unit := "K", description := "Outdoor dry bulb temperature" }]

/-- A value as a real; a raised flag counts as one. Mirrors `real`. -/
def asReal : UnitValue α → α
  | .real x => x
  | .flag b => if b then 1.0 else 0.0

/-- A value as a flag; every real but zero raises it. Mirrors `flag`. -/
def asFlag : UnitValue α → Bool
  | .real x => !(x == 0.0)
  | .flag b => b

/-- The state with a variable written, if there is such a variable. Mirrors `set`. -/
def write? (name : String) (value : UnitValue α) (s : ZoneState α) : Option (ZoneState α) :=
  if name = inputName setpointPath then
    some { s with setpoint := { s.setpoint with value := asReal value } }
  else if name = activationName setpointPath then
    some { s with setpoint := { s.setpoint with active := asFlag value } }
  else if name = inputName powerPath then
    some { s with power := { s.power with value := asReal value } }
  else if name = activationName powerPath then
    some { s with power := { s.power with active := asFlag value } }
  else none

/-- The value of a variable, if there is such a variable. Mirrors `get`. -/
def read? (z : Zone α) (name : String) (s : ZoneState α) : Option α :=
  if name = outputName temperaturePath then some s.temperature
  else if name = outputName heatingPath then some s.heatingPower
  else if name = outputName outdoorPath then some (z.outdoor s.time)
  else none

variable [Decimal.Numeral α]

/-- What a failed start over is reported as. -/
def restartError : ZoneFault α → UnitError
  | .warmupPrecedes warmupEnd start =>
    .initialization (ZoneFault.message (.warmupPrecedes warmupEnd start))
  | fault => .initialization (UnitError.message (.solver fault.message))

/-- The zone behind the calls of a unit. -/
def unit (z : Zone α) : EmulationUnit α (ZoneState α) where
  metadata := metadata z.parameters
  restart start warmupEnd := (z.warmUp start warmupEnd).mapError restartError
  set name value := .ofState fun s =>
    match write? name value s with
    | some s => (s, .ok ())
    | none => (s, .error (.unknownVariable name))
  doStep duration := (z.integrate duration).mapError fun fault => .solver fault.message
  get name := .ofReading fun s =>
    match z.read? name s with
    | some x => .ok x
    | none => .error (.unknownVariable name)

end

end BuildingEmulation.Zone
