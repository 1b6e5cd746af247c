import BuildingEmulation.Config.Configuration
import BuildingEmulation.Document

/-!
# Reading configurations

A configuration out of a document. Members that are not given take their defaults, and members
with unknown names are passed over; a member of the wrong shape makes the document unreadable.
-/
namespace BuildingEmulation.Config

open Document (bool? text? natural? real? listOf? optional? choice?)

variable {α : Type} [Decimal.Numeral α]

/-! ## Members -/

def scenarioMembers : List String :=
  ["name", "start_time", "end_time", "warmup_period", "step", "step_timeout", "init_timeout"]

def modelMembers : List String :=
  ["capacitance_j_per_k", "ua_w_per_k", "max_heating_power_w", "controller_gain_w_per_k",
   "initial_temperature_k", "default_setpoint_k", "outdoor_mean_k", "outdoor_amplitude_k"]

def kpiMembers : List String :=
  ["name", "unit", "kind", "signals", "tag", "scale", "comfort", "schedule"]

def bandMembers : List String := ["lower", "upper"]

def scheduleMembers : List String := ["base", "periods"]

def periodMembers : List String := ["start_hour", "end_hour", "months", "price"]

def loggingMembers : List String := ["directory", "format", "file_prefix", "file_enabled"]

def listenerMembers : List String := ["enabled", "listen"]

def configurationMembers : List String := ["scenario", "model", "kpis", "logging", "metrics", "api"]

/-! ## Structures -/

/-- A number of seconds. -/
def timeLimit? (d : Document α) : Option TimeLimit := (natural? 64 d).map .ofSeconds

def address? (d : Document α) : Option SocketAddress := text? d >>= SocketAddress.ofText?

def band? (dialect : Dialect) (d : Document α) : Option (ComfortBand α) := do
  let m ← d.members? dialect bandMembers
  pure { lower := ← m.required "lower" real?, upper := ← m.required "upper" real? }

def period? (dialect : Dialect) (d : Document α) : Option (PricePeriod α) := do
  let m ← d.members? dialect periodMembers
  pure
    { startHour := ← m.withDefault "start_hour" 0 (natural? 32)
      endHour := ← m.withDefault "end_hour" 24 (natural? 32)
      months := ← m.withDefault "months" [] (listOf? (natural? 32))
      price := ← m.required "price" real? }

def schedule? (dialect : Dialect) (d : Document α) : Option (PriceSchedule α) := do
  let m ← d.members? dialect scheduleMembers
  pure
    { base := ← m.required "base" real?
      periods := ← m.withDefault "periods" [] (listOf? (period? dialect)) }

def logging? (dialect : Dialect) (d : Document α) : Option Logging := do
  let m ← d.members? dialect loggingMembers
  let standard : Logging := {}
  pure
    { directory := ← m.withDefault "directory" standard.directory text?
      format := ← m.withDefault "format" standard.format (choice? dialect LogFormat.ofName?)
      filePrefix := ← m.withDefault "file_prefix" standard.filePrefix (optional? text?)
      fileEnabled := ← m.withDefault "file_enabled" standard.fileEnabled bool? }

def listener? (dialect : Dialect) (standard : Listener) (d : Document α) : Option Listener := do
  let m ← d.members? dialect listenerMembers
  pure
    { enabled := ← m.withDefault "enabled" standard.enabled bool?
      listen := ← m.withDefault "listen" standard.listen address? }

variable [Scalar α]

def scenario? (dialect : Dialect) (d : Document α) : Option (Scenario α) := do
  let m ← d.members? dialect scenarioMembers
  let standard : Scenario α := .default
  pure
    { name := ← m.withDefault "name" standard.name text?
      start := ← m.withDefault "start_time" standard.start real?
      stop := ← m.withDefault "end_time" standard.stop real?
      warmup := ← m.withDefault "warmup_period" standard.warmup real?
      step := ← m.withDefault "step" standard.step real?
      stepLimit := ← m.withDefault "step_timeout" standard.stepLimit timeLimit?
      initLimit := ← m.withDefault "init_timeout" standard.initLimit timeLimit? }

def model? (dialect : Dialect) (d : Document α) : Option (ZoneParameters α) := do
  let m ← d.members? dialect modelMembers
  let standard : ZoneParameters α := .default
  pure
    { capacitance := ← m.withDefault "capacitance_j_per_k" standard.capacitance real?
      conductance := ← m.withDefault "ua_w_per_k" standard.conductance real?
      maxPower := ← m.withDefault "max_heating_power_w" standard.maxPower real?
      gain := ← m.withDefault "controller_gain_w_per_k" standard.gain real?
      initialTemperature :=
        ← m.withDefault "initial_temperature_k" standard.initialTemperature real?
      setpoint := ← m.withDefault "default_setpoint_k" standard.setpoint real?
      outdoorMean := ← m.withDefault "outdoor_mean_k" standard.outdoorMean real?
      outdoorAmplitude := ← m.withDefault "outdoor_amplitude_k" standard.outdoorAmplitude real? }

def kpi? (dialect : Dialect) (d : Document α) : Option (KpiSpec α) := do
  let m ← d.members? dialect kpiMembers
  pure
    { name := ← m.required "name" text?
      unit := ← m.withDefault "unit" "" text?
      kind := ← m.required "kind" (choice? dialect KpiKind.ofName?)
      signals := ← m.withDefault "signals" [] (listOf? text?)
      tag := ← m.withDefault "tag" none (optional? text?)
      scale := ← m.withDefault "scale" 1.0 real?
      comfort := ← m.withDefault "comfort" none (optional? (band? dialect))
      schedule := ← m.withDefault "schedule" none (optional? (schedule? dialect)) }

/-- The configuration that a document gives. -/
def configuration? (dialect : Dialect) (d : Document α) : Option (Configuration α) := do
  let m ← d.members? dialect configurationMembers
  let standard : Configuration α := .default
  pure
    { scenario := ← m.withDefault "scenario" standard.scenario (scenario? dialect)
      model := ← m.withDefault "model" standard.model (model? dialect)
      kpis := ← m.withDefault "kpis" standard.kpis (listOf? (kpi? dialect))
      logging := ← m.withDefault "logging" standard.logging (logging? dialect)
      metrics := ← m.withDefault "metrics" standard.metrics (listener? dialect standard.metrics)
      api := ← m.withDefault "api" standard.api (listener? dialect standard.api) }

end BuildingEmulation.Config
