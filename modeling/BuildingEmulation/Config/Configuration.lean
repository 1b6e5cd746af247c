import BuildingEmulation.Config.SocketAddress
import BuildingEmulation.Kpi.Spec
import BuildingEmulation.Scenario
import BuildingEmulation.Zone.Parameters

/-!
# Configurations

Everything that can be set from outside: the scenario, the zone, the indicators, and how the
program logs and listens. `default` is what holds where nothing is said.

Results:
* `validate_ok_iff`: a configuration is valid if its parts are and no two indicators share a name.
-/
namespace BuildingEmulation

/-- How log lines are written. -/
inductive LogFormat
  | structuredJson
  | pretty
  deriving Repr, DecidableEq

namespace LogFormat

def all : List LogFormat := [structuredJson, pretty]

def name : LogFormat → String
  | structuredJson => "structured-json"
  | pretty => "pretty"

def ofName? (s : String) : Option LogFormat := all.find? (·.name == s)

theorem ofName?_name (f : LogFormat) : ofName? f.name = some f := by cases f <;> decide

end LogFormat

structure Logging where
  directory : String := "target/logs"
  format : LogFormat := .structuredJson
  filePrefix : Option String := none
  fileEnabled : Bool := true
  deriving Repr, DecidableEq

/-- A service that listens on an address. -/
structure Listener where
  enabled : Bool := true
  listen : SocketAddress
  deriving Repr, DecidableEq

/-- Mirrors `AppConfig`. -/
structure Configuration (α : Type) where
  scenario : Scenario α
  model : ZoneParameters α
  kpis : List (KpiSpec α)
  logging : Logging
  metrics : Listener
  api : Listener
  deriving Repr, BEq

/-- What makes a configuration unusable. -/
inductive ConfigurationFault (α : Type)
  | scenario (fault : ScenarioFault α)
  | model (fault : ZoneParameterFault)
  | kpi (fault : KpiFault α)
  | repeatedKpi (name : String)
  deriving Repr

def ConfigurationFault.message {α : Type} [Scalar α] [Decimal.Numeral α] :
    ConfigurationFault α → String
  | scenario fault => fault.message
  | model fault => fault.message
  | kpi fault => fault.message
  | repeatedKpi name => s!"kpi '{name}' is declared more than once"

namespace Configuration

variable {α : Type} [Scalar α]

/-! ## Defaults -/

/-- Joules as kilowatt hours. -/
def perKilowattHour : α := 1.0 / 3.6e6

/-- An indicator over the signals with a tag. -/
def tagged (name unit : String) (kind : KpiKind) (tag : String) (scale : α) : KpiSpec α where
  name := name
  unit := unit
  kind := kind
  signals := []
  tag := some tag
  scale := scale
  comfort := none
  schedule := none

/-- The price of energy by day and by night. -/
def dayAndNight : PriceSchedule α where
  base := 0.18
  periods := [{ startHour := 7, endHour := 22, price := 0.27 }]

/-- Mirrors `default_kpis`. -/
def defaultKpis : List (KpiSpec α) :=
  [tagged "ener_tot" "kWh" .sumRate "power" perKilowattHour,
   { tagged "tdis_tot" "Kh" .discomfort "comfort" (1.0 / Calendar.secondsPerHour) with
     comfort := some { lower := 294.15, upper := 297.15 } },
   { tagged "cost_tot" "EUR" .priced "power" perKilowattHour with schedule := some dayAndNight },
   { tagged "emis_tot" "kgCO2" .priced "power" perKilowattHour with schedule := some (.flat 0.2) },
   tagged "pele_peak" "kW" .peak "power" 1.0e-3,
   { tagged "time_rat" "" .computationalTimeRatio "" 1.0 with tag := none }]

def defaultMetrics : Listener where
  listen := { host := .v4 0 0 0 0, port := 9898 }

def defaultApi : Listener where
  listen := { host := .v4 0 0 0 0, port := 5000 }

def default : Configuration α where
  scenario := .default
  model := .default
  kpis := defaultKpis
  logging := {}
  metrics := defaultMetrics
  api := defaultApi

/-- The default configuration over a window from zero, without warm-up. Mirrors `short_scenario`. -/
def short (stop step : α) : Configuration α :=
  let standard : Scenario α := .default
  { (default : Configuration α) with scenario := { standard with start := 0.0, warmup := 0.0, stop, step } }

/-! ## Validation -/

/-- The indicators are valid and their names differ from each other and from the names before. -/
def validateKpis (names : List String) : List (KpiSpec α) → Except (ConfigurationFault α) Unit
  | [] => .ok ()
  | k :: rest => do
    k.validate.mapError ConfigurationFault.kpi
    if names.contains k.name then throw (.repeatedKpi k.name)
    validateKpis (k.name :: names) rest

/-- Mirrors `validate`. -/
def validate (c : Configuration α) : Except (ConfigurationFault α) Unit := do
  c.scenario.validate.mapError ConfigurationFault.scenario
  c.model.validate.mapError ConfigurationFault.model
  validateKpis [] c.kpis

theorem mapError_ok {ε ε' β : Type} (f : ε → ε') (b : β) : (Except.ok b).mapError f = .ok b := rfl

theorem mapError_error {ε ε' β : Type} (f : ε → ε') (e : ε) :
    (Except.error e : Except ε β).mapError f = .error (f e) := rfl

theorem validateKpis_ok_iff (names : List String) (kpis : List (KpiSpec α)) :
    validateKpis names kpis = .ok () ↔
      (∀ k ∈ kpis, k.validate = .ok ()) ∧ (kpis.map (·.name)).Nodup ∧
        ∀ k ∈ kpis, k.name ∉ names := by
  induction kpis generalizing names with
  | nil => simp [validateKpis]
  | cons k rest ih =>
    cases hk : k.validate with
    | error e => simp [validateKpis, hk, mapError_error, bind, Except.bind]
    | ok u =>
      by_cases hn : k.name ∈ names
      · simp [validateKpis, hk, hn, mapError_ok, bind, Except.bind, throw, throwThe,
          MonadExceptOf.throw]
      · have := ih (k.name :: names)
        simp only [validateKpis, hk, mapError_ok, bind, Except.bind, List.contains_eq_mem, hn,
          decide_false, Bool.false_eq_true, if_false, this, List.mem_cons,
          List.map_cons, List.nodup_cons, List.mem_map, not_or, forall_eq_or_imp]
        grind

theorem validate_ok_iff (c : Configuration α) :
    c.validate = .ok () ↔
      c.scenario.validate = .ok () ∧ c.model.validate = .ok () ∧
        (∀ k ∈ c.kpis, k.validate = .ok ()) ∧ (c.kpis.map (·.name)).Nodup := by
  unfold validate
  cases hs : c.scenario.validate with
  | error e => simp [mapError_error, bind, Except.bind]
  | ok u =>
    cases hm : c.model.validate with
    | error e => simp [mapError_ok, mapError_error, bind, Except.bind]
    | ok v => simp [mapError_ok, bind, Except.bind, validateKpis_ok_iff]

end Configuration

end BuildingEmulation
