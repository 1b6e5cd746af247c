import BuildingEmulation.Comfort
import BuildingEmulation.Price
import BuildingEmulation.Text.Blank

/-!
# Definitions of key performance indicators

An indicator folds output signals over a run: by what rule, over which signals, at which scale.
-/
namespace BuildingEmulation

/-- The rule by which an indicator grows. -/
inductive KpiKind
  /-- Time integral of the magnitude of the signals. -/
  | sumRate
  /-- Time integral of the violations of a comfort band. -/
  | discomfort
  /-- Time integral of the magnitude of the signals times a price. -/
  | priced
  /-- Largest magnitude of the signals. -/
  | peak
  /-- Time spent computing over time simulated. -/
  | computationalTimeRatio
  deriving Repr, DecidableEq

namespace KpiKind

def all : List KpiKind := [sumRate, discomfort, priced, peak, computationalTimeRatio]

def name : KpiKind → String
  | sumRate => "sum-rate"
  | discomfort => "discomfort"
  | priced => "priced"
  | peak => "peak"
  | computationalTimeRatio => "computational-time-ratio"

def ofName? (s : String) : Option KpiKind := all.find? (·.name == s)

theorem ofName?_name (k : KpiKind) : ofName? k.name = some k := by cases k <;> decide

end KpiKind

/-- An indicator over the listed signals and those that carry a tag. -/
structure KpiSpec (α : Type) where
  name : String
  unit : String
  kind : KpiKind
  signals : List String
  tag : Option String
  scale : α
  comfort : Option (ComfortBand α)
  schedule : Option (PriceSchedule α)
  deriving Repr, BEq

/-- What makes a definition unusable, whatever signals there are. -/
inductive KpiFault (α : Type)
  | blankName
  | badScale (kpi : String)
  | noComfortBand (kpi : String)
  | badComfortBand (kpi : String) (band : ComfortBand α)
  | noSchedule (kpi : String)
  | badSchedule (kpi : String) (fault : PriceFault)
  deriving Repr

def KpiFault.message {α : Type} [Scalar α] [Decimal.Numeral α] : KpiFault α → String
  | blankName => "kpi name must not be empty"
  | badScale kpi => s!"kpi '{kpi}' scale must be finite and positive"
  | noComfortBand kpi => s!"kpi '{kpi}' requires a comfort band"
  | badComfortBand kpi band => s!"kpi '{kpi}' comfort band: {band.faultText}"
  | noSchedule kpi => s!"kpi '{kpi}' requires a price schedule"
  | badSchedule kpi fault => s!"kpi '{kpi}' price schedule: {fault.message}"

/-- A name, a positive scale, and a valid band or schedule if the kind needs one. Mirrors
`validate`. -/
def KpiSpec.validate {α : Type} [Scalar α] (k : KpiSpec α) : Except (KpiFault α) Unit :=
  if Text.isBlankText k.name then .error .blankName
  else if !Scalar.isFinite k.scale || k.scale ≤ 0.0 then .error (.badScale k.name)
  else match k.kind with
    | .discomfort =>
      match k.comfort with
      | none => .error (.noComfortBand k.name)
      | some band => if band.isValid then .ok () else .error (.badComfortBand k.name band)
    | .priced =>
      match k.schedule with
      | none => .error (.noSchedule k.name)
      | some schedule => schedule.validate.mapError (.badSchedule k.name)
    | _ => .ok ()

end BuildingEmulation
