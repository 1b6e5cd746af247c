import BuildingEmulation.Scalar
import BuildingEmulation.Decimal.Layout

/-!
# Calendar

Simulation time counts seconds from midnight at the start of a year of 365 days. A timestamp has
an hour, a day of that year and a month; `timeText` writes it as a day number and a time of day.
-/
namespace BuildingEmulation.Calendar

variable {α : Type} [Scalar α]

def secondsPerHour : α := 3600.0

def secondsPerDay : α := 86400.0

def daysPerYear : Nat := 365

/-- Timestamps closer than this are the same instant. -/
def timeTolerance : α := 1e-6

/-- The days of each month of a year without a leap day. -/
def monthLengths : List Nat := [31, 28, 31, 30, 31, 30, 31, 31, 30, 31, 30, 31]

/-- The hour of the day, from 0 to 23. Mirrors `hour_of_day`. -/
def hourOfDay (seconds : α) : Nat :=
  let hours := Scalar.modulo seconds secondsPerDay / secondsPerHour
  min (Scalar.inUnsigned64 hours (Scalar.floor? hours)) 23

/-- The number of the day since the start of the first year. -/
def dayNumber (seconds : α) : Int :=
  let days := seconds / secondsPerDay
  Scalar.inSigned64 days (Scalar.floor? days)

/-- The day of the year, from 0 to 364. Mirrors `day_of_year`. -/
def dayOfYear (seconds : α) : Nat := (dayNumber seconds % daysPerYear).toNat

/-- The month, counted from `month`, that holds a day, counted from its first day; the last one
if the lengths run out. -/
def monthHolding (day month : Nat) : List Nat → Nat
  | [] => month - 1
  | length :: rest => if day < length then month else monthHolding (day - length) (month + 1) rest

/-- The month of the year, from 1 to 12. Mirrors `month_of_year`. -/
def monthOfYear (seconds : α) : Nat := monthHolding (dayOfYear seconds) 1 monthLengths

/-- At least two digits. -/
def twoDigits (n : Nat) : String :=
  let digits := Decimal.digitsOf n
  String.ofList (Decimal.zeros (2 - digits.length) ++ digits)

/-- `day D hh:mm:ss`, the seconds of the day rounded to the nearest whole one. Mirrors
`format_sim_time`. -/
def timeText (seconds : α) : String :=
  let within := Scalar.modulo seconds secondsPerDay
  let s := Scalar.inUnsigned64 within (Scalar.nearest? within)
  s!"day {dayNumber seconds} {twoDigits (s / 3600)}:{twoDigits (s % 3600 / 60)}:{twoDigits (s % 60)}"

theorem hourOfDay_lt (seconds : α) : hourOfDay seconds < 24 :=
  Nat.lt_succ_of_le (Nat.min_le_right _ _)

end BuildingEmulation.Calendar
