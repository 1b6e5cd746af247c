import BuildingEmulation.Config.Configuration
import BuildingEmulation.Decimal.Shortest
import BuildingEmulation.Session.Basic
import BuildingEmulation.Zone.Outdoor
import BuildingEmulation.Zone.Unit

/-!
# Sessions from configurations

The session that a configuration describes: its scenario and indicators over the bundled zone.
-/
namespace BuildingEmulation

/-- A session over the zone. -/
abbrev ZoneSession := Session Float (ZoneState Float)

/-- The session of a configuration, which need not be valid. -/
def Session.ofConfiguration (c : Configuration Float) : Except (OpenFault Float) ZoneSession :=
  let zone := Zone.ofParameters c.model
  Session.start c.scenario c.kpis zone.unit (zone.start 0.0)

end BuildingEmulation
