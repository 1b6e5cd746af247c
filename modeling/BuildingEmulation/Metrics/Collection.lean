import BuildingEmulation.Metrics.DaemonMetrics
import BuildingEmulation.Metrics.SessionMetrics

/-!
# Collections of metrics

The instruments that are exposed together. No name may be registered twice, so a collection takes
the instruments of one session and of one daemon.
-/
namespace BuildingEmulation.Metrics

structure Collection (α : Type) where
  session : Option (SessionMetrics α) := none
  daemon : Option (DaemonMetrics α) := none

/-- A name that is already registered. -/
inductive RegistrationFault
  | duplicate
  deriving Repr, DecidableEq

def RegistrationFault.message : RegistrationFault → String
  | duplicate => "Duplicate metrics collector registration attempted"

namespace Collection

variable {α : Type} [Scalar α]

def registerSession (c : Collection α) : Except RegistrationFault (Collection α) :=
  if c.session.isSome then .error .duplicate else .ok { c with session := some .fresh }

def registerDaemon (c : Collection α) : Except RegistrationFault (Collection α) :=
  if c.daemon.isSome then .error .duplicate else .ok { c with daemon := some .fresh }

/-- Everything that is registered. -/
def families (c : Collection α) : List (Family α) :=
  (c.session.map SessionMetrics.families).getD [] ++ (c.daemon.map DaemonMetrics.families).getD []

def lines [Decimal.Numeral α] (c : Collection α) : List String := Metrics.lines c.families

end Collection

end BuildingEmulation.Metrics
