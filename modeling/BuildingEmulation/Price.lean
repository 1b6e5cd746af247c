import BuildingEmulation.Calendar

/-!
# Price schedules

A price or emission factor that depends on the hour of the day and the month of the year: a base
price, and periods that replace it. The first period that applies wins.
-/
namespace BuildingEmulation

/-- A price for the hours from `startHour` up to `endHour` of the listed months. No listed month
means every month; a start above the end goes past midnight. -/
structure PricePeriod (α : Type) where
  startHour : Nat := 0
  endHour : Nat := 24
  months : List Nat := []
  price : α
  deriving Repr, BEq

/-- A base price and the periods that replace it. -/
structure PriceSchedule (α : Type) where
  base : α
  periods : List (PricePeriod α) := []
  deriving Repr, BEq

/-- What makes a schedule unusable. -/
inductive PriceFault
  | baseNotFinite
  | periodNotFinite
  | hoursOutOfRange (startHour endHour : Nat)
  | monthOutOfRange (month : Nat)
  deriving Repr, DecidableEq

def PriceFault.message : PriceFault → String
  | baseNotFinite => "base price must be finite"
  | periodNotFinite => "period price must be finite"
  | hoursOutOfRange s e => s!"period hours {s}..{e} out of range"
  | monthOutOfRange m => s!"period month {m} out of range"

variable {α : Type}

/-- Whether an hour lies in the period, past midnight if it has to. -/
def PricePeriod.holdsHour (p : PricePeriod α) (hour : Nat) : Bool :=
  if p.startHour ≤ p.endHour then p.startHour ≤ hour && hour < p.endHour
  else p.startHour ≤ hour || hour < p.endHour

def PricePeriod.holdsMonth (p : PricePeriod α) (month : Nat) : Bool :=
  p.months.isEmpty || p.months.contains month

/-- Mirrors `applies`. -/
def PricePeriod.appliesTo (p : PricePeriod α) (hour month : Nat) : Bool :=
  p.holdsMonth month && p.holdsHour hour

namespace PriceSchedule

/-- The same price at all times. -/
def flat (price : α) : PriceSchedule α := { base := price }

/-- The price in an hour of a month. -/
def priceIn (s : PriceSchedule α) (hour month : Nat) : α :=
  match s.periods.find? (·.appliesTo hour month) with
  | some p => p.price
  | none => s.base

variable [Scalar α]

/-- The price at a timestamp. Mirrors `price_at`. -/
def priceAt (s : PriceSchedule α) (seconds : α) : α :=
  s.priceIn (Calendar.hourOfDay seconds) (Calendar.monthOfYear seconds)

/-- The first fault of a period: its price, its hours, its months. -/
def periodFault? (p : PricePeriod α) : Option PriceFault :=
  if !Scalar.isFinite p.price then some .periodNotFinite
  else if 23 < p.startHour || 24 < p.endHour then some (.hoursOutOfRange p.startHour p.endHour)
  else (p.months.find? fun m => m < 1 || 12 < m).map .monthOutOfRange

/-- Every price is finite, and every hour and month exists. -/
def validate (s : PriceSchedule α) : Except PriceFault Unit :=
  if !Scalar.isFinite s.base then .error .baseNotFinite
  else match s.periods.findSome? periodFault? with
    | some fault => .error fault
    | none => .ok ()

end PriceSchedule

end BuildingEmulation
