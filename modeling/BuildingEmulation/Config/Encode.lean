import BuildingEmulation.Config.Configuration
import BuildingEmulation.Document

/-!
# Writing configurations

A configuration as a document: every member under its name, limits in whole seconds, addresses as
texts, and `null` for what is not given.
-/
namespace BuildingEmulation.Config

open Document (ofOption)

variable {α : Type}

/-- A whole number as a document. -/
def ofNat (n : Nat) : Document α := .integer n

def ofScenario (s : Scenario α) : Document α :=
  .record
    [("name", .text s.name), ("start_time", .real s.start), ("end_time", .real s.stop),
     ("warmup_period", .real s.warmup), ("step", .real s.step),
     ("step_timeout", ofNat s.stepLimit.seconds), ("init_timeout", ofNat s.initLimit.seconds)]

def ofModel (p : ZoneParameters α) : Document α :=
  .record
    [("capacitance_j_per_k", .real p.capacitance), ("ua_w_per_k", .real p.conductance),
     ("max_heating_power_w", .real p.maxPower), ("controller_gain_w_per_k", .real p.gain),
     ("initial_temperature_k", .real p.initialTemperature),
     ("default_setpoint_k", .real p.setpoint), ("outdoor_mean_k", .real p.outdoorMean),
     ("outdoor_amplitude_k", .real p.outdoorAmplitude)]

def ofBand (b : ComfortBand α) : Document α :=
  .record [("lower", .real b.lower), ("upper", .real b.upper)]

def ofPeriod (p : PricePeriod α) : Document α :=
  .record
    [("start_hour", ofNat p.startHour), ("end_hour", ofNat p.endHour),
     ("months", .list (p.months.map ofNat)), ("price", .real p.price)]

def ofSchedule (s : PriceSchedule α) : Document α :=
  .record [("base", .real s.base), ("periods", .list (s.periods.map ofPeriod))]

def ofKpi (k : KpiSpec α) : Document α :=
  .record
    [("name", .text k.name), ("unit", .text k.unit), ("kind", .text k.kind.name),
     ("signals", .list (k.signals.map .text)), ("tag", ofOption .text k.tag),
     ("scale", .real k.scale), ("comfort", ofOption ofBand k.comfort),
     ("schedule", ofOption ofSchedule k.schedule)]

def ofLogging (l : Logging) : Document α :=
  .record
    [("directory", .text l.directory), ("format", .text l.format.name),
     ("file_prefix", ofOption .text l.filePrefix), ("file_enabled", .bool l.fileEnabled)]

def ofListener (l : Listener) : Document α :=
  .record [("enabled", .bool l.enabled), ("listen", .text l.listen.text)]

/-- The document of a configuration. -/
def ofConfiguration (c : Configuration α) : Document α :=
  .record
    [("scenario", ofScenario c.scenario), ("model", ofModel c.model),
     ("kpis", .list (c.kpis.map ofKpi)), ("logging", ofLogging c.logging),
     ("metrics", ofListener c.metrics), ("api", ofListener c.api)]

end BuildingEmulation.Config
