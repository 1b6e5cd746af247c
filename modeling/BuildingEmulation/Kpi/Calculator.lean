import BuildingEmulation.Kpi.Spec
import BuildingEmulation.Registry
import BuildingEmulation.SignalMap

/-!
# Computing key performance indicators

Definitions are resolved against a registry once; after that every committed step is folded into
every indicator.
-/
namespace BuildingEmulation

/-- A rule together with what it needs. Mirrors `Aggregation`. -/
inductive KpiRule (α : Type)
  | sumRate
  | discomfort (band : ComfortBand α)
  | priced (schedule : PriceSchedule α)
  | peak
  | timeRatio
  deriving Repr

/-- A definition whose signals are known to exist. -/
structure Indicator (α : Type) where
  name : String
  unit : String
  rule : KpiRule α
  signals : List String
  scale : α
  deriving Repr

/-- Why a definition does not fit a registry. -/
inductive ResolveFault
  | unknownSignal (kpi signal : String)
  | unknownTag (kpi tag : String)
  | noSignals (kpi : String)
  | missingParameter (kpi parameter : String)
  deriving Repr, DecidableEq

def ResolveFault.message : ResolveFault → String
  | unknownSignal kpi signal => s!"kpi '{kpi}' references unknown output '{signal}'"
  | unknownTag kpi tag => s!"kpi '{kpi}' references unknown tag '{tag}'"
  | noSignals kpi => s!"kpi '{kpi}' resolves to no signals"
  | missingParameter kpi parameter => s!"kpi '{kpi}' is missing its {parameter}"

/-! ## Resolving -/

/-- A list with the items of another added behind it, each unless it is already there. -/
def addNew (xs : List String) : List String → List String
  | [] => xs
  | y :: rest => addNew (if xs.contains y then xs else xs ++ [y]) rest

namespace KpiSpec

variable {α : Type}

/-- The rule of a definition, with the band or schedule it needs. Mirrors `from_spec`. -/
def rule? (k : KpiSpec α) : Except ResolveFault (KpiRule α) :=
  match k.kind with
  | .sumRate => .ok .sumRate
  | .discomfort =>
    match k.comfort with
    | some band => .ok (.discomfort band)
    | none => .error (.missingParameter k.name "comfort band")
  | .priced =>
    match k.schedule with
    | some schedule => .ok (.priced schedule)
    | none => .error (.missingParameter k.name "schedule")
  | .peak => .ok .peak
  | .computationalTimeRatio => .ok .timeRatio

/-- The signals a definition names, then those that carry its tag, each once. -/
def signalsIn (k : KpiSpec α) (r : Registry α) : Except ResolveFault (List String) := do
  match k.signals.find? (fun s => !r.hasOutput s) with
  | some signal => throw (.unknownSignal k.name signal)
  | none => pure ()
  let named := addNew [] k.signals
  let signals ← match k.tag with
    | none => pure named
    | some tag =>
      match r.group? tag with
      | none => throw (.unknownTag k.name tag)
      | some group => pure (addNew named group)
  if signals.isEmpty then throw (.noSignals k.name)
  pure signals

/-- The indicator of a definition. The time ratio looks at no signals. -/
def resolve (r : Registry α) (k : KpiSpec α) : Except ResolveFault (Indicator α) := do
  let rule ← k.rule?
  let signals ← match rule with
    | .timeRatio => pure []
    | _ => k.signalsIn r
  pure { name := k.name, unit := k.unit, rule, signals, scale := k.scale }

end KpiSpec

/-! ## Folding steps -/

/-- What the indicators see of one committed step. -/
structure StepSample (α : Type) where
  startTime : α
  elapsed : α
  outputs : SignalMap α
  /-- The time the step took to compute, in nanoseconds. -/
  latency : Nat
  deriving Repr

/-- An indicator with its value so far. -/
structure KpiState (α : Type) where
  indicator : Indicator α
  value : α
  deriving Repr

/-- What is reported of an indicator. -/
structure KpiRecord (α : Type) where
  name : String
  unit : String
  value : α
  /-- The value can only grow between resets. -/
  cumulative : Bool
  deriving Repr

/-- Nanoseconds as seconds. -/
def secondsOf {α : Type} [Scalar α] (nanoseconds : Nat) : α :=
  Scalar.ofNat (nanoseconds / 1000000000) + Scalar.ofNat (nanoseconds % 1000000000) / 1000000000.0

namespace Indicator

variable {α : Type} [Scalar α]

/-- The values of the indicator's signals that a step recorded. -/
def readings (k : Indicator α) (outputs : SignalMap α) : List α := k.signals.filterMap outputs.get?

/-- The magnitudes of the signals, added up. Mirrors `rate_sum`. -/
def rateSum (k : Indicator α) (outputs : SignalMap α) : α :=
  Scalar.sum ((k.readings outputs).map Scalar.abs)

/-- The violations of a band by the signals, added up. -/
def violationSum (k : Indicator α) (band : ComfortBand α) (outputs : SignalMap α) : α :=
  Scalar.sum ((k.readings outputs).map band.violation)

/-- The value after a step, given the totals of computing and simulated time with that step. Mirrors
`apply`. -/
def after (k : Indicator α) (value : α) (s : StepSample α) (computed simulated : α) : α :=
  match k.rule with
  | .sumRate => value + k.rateSum s.outputs * s.elapsed * k.scale
  | .discomfort band => value + k.violationSum band s.outputs * s.elapsed * k.scale
  | .priced schedule =>
    value + k.rateSum s.outputs * schedule.priceAt s.startTime * s.elapsed * k.scale
  | .peak => Scalar.larger value (k.rateSum s.outputs * k.scale)
  | .timeRatio => if 0.0 < simulated then computed / simulated * k.scale else value

def isCumulative (k : Indicator α) : Bool :=
  match k.rule with
  | .sumRate | .discomfort _ | .peak => true
  | .priced _ | .timeRatio => false

end Indicator

/-- The indicators of a session and the time it has spent. -/
structure KpiCalculator (α : Type) where
  kpis : List (KpiState α)
  computed : α
  simulated : α
  deriving Repr

namespace KpiCalculator

variable {α : Type} [Scalar α]

/-- All indicators at zero; the fault of the first definition that does not fit the registry.
Mirrors `new`. -/
def ofSpecs (specs : List (KpiSpec α)) (r : Registry α) : Except ResolveFault (KpiCalculator α) := do
  let indicators ← specs.mapM (KpiSpec.resolve r)
  pure { kpis := indicators.map fun k => ⟨k, 0.0⟩, computed := 0.0, simulated := 0.0 }

/-- Folds one committed step into every indicator. Mirrors `on_step`. -/
def step (c : KpiCalculator α) (s : StepSample α) : KpiCalculator α :=
  let computed := c.computed + secondsOf s.latency
  let simulated := c.simulated + s.elapsed
  { kpis := c.kpis.map fun k => { k with value := k.indicator.after k.value s computed simulated }
    computed, simulated }

/-- The same indicators before any step. Mirrors `reset`. -/
def reset (c : KpiCalculator α) : KpiCalculator α :=
  { kpis := c.kpis.map fun k => { k with value := 0.0 }, computed := 0.0, simulated := 0.0 }

/-- The names and values of all indicators, in order. Mirrors `snapshot`, which keeps each name once
(`collapse`). -/
def snapshot (c : KpiCalculator α) : List (String × α) :=
  c.kpis.map fun k => (k.indicator.name, k.value)

/-- Mirrors `records`. -/
def records (c : KpiCalculator α) : List (KpiRecord α) :=
  c.kpis.map fun k =>
    { name := k.indicator.name, unit := k.indicator.unit, value := k.value
      cumulative := k.indicator.isCumulative }

end KpiCalculator

/-- Names and values with each name once: at its first place, with its last value. -/
def collapse {α : Type} (entries : List (String × α)) : List (String × α) :=
  entries.foldl
    (fun kept (name, x) =>
      if kept.any (·.1 == name) then kept.map fun e => if e.1 == name then (name, x) else e
      else kept ++ [(name, x)])
    []

end BuildingEmulation
