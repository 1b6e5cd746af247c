import BuildingEmulation.Scalar.Double
import BuildingEmulation.Zone.Dynamics

/-!
# The course of a day

The outdoor temperature follows a cosine with a period of one day.
-/
namespace BuildingEmulation.Zone

/-- The ratio of a circle's circumference to its diameter. -/
def pi : Float := 3.141592653589793

/-- The cosine of the time of day. -/
def cosineOfDay (time : Float) : Float := Float.cos (2.0 * pi * time / Calendar.secondsPerDay)

/-- The zone with the given parameters under a cosine. -/
def ofParameters (parameters : ZoneParameters Float) : Zone Float where
  parameters := parameters
  wave := cosineOfDay

end BuildingEmulation.Zone
