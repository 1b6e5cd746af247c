import BuildingEmulation.Calendar
import BuildingEmulation.Proofs.Exact

/-!
# The calendar of an exact time

A time lies some whole days and less than one more day behind the start, or in front of it. The
number of days says which day of a year of 365 days it is, and with that the month; what is left of
the last day says the hour.

Results:
* `isHour_iff`: the hour, at any time.
* `isMonth_iff`: the month, as long as the number of the day fits.
* `timeOfDay_year`, `isMonth_year`: a year later the calendar looks the same.
-/
namespace BuildingEmulation.Calendar

/-- The whole days from the start to a time. -/
def daysTo (t : Rat) : Int := ⌊t / 86400⌋

/-- The seconds since the last midnight. -/
def timeOfDay (t : Rat) : Rat := t - 86400 * daysTo t

/-- The number of the day fits into a signed register of 64 bits. -/
def DayFits (t : Rat) : Prop := -2 ^ 63 ≤ daysTo t ∧ daysTo t < 2 ^ 63

instance (t : Rat) : Decidable (DayFits t) := inferInstanceAs (Decidable (_ ∧ _))

/-- The hours that have passed since midnight. -/
def IsHour (t : Rat) (hour : Nat) : Prop := (hour : Int) = ⌊timeOfDay t / 3600⌋

/-- The day of the year on which a month starts; the whole year lies in front of what follows the
last one. -/
def firstDay (month : Nat) : Nat :=
  [0, 31, 59, 90, 120, 151, 181, 212, 243, 273, 304, 334].getD (month - 1) 365

/-- A month holds the days from its first one up to that of the next month. -/
structure Holds (month day : Nat) : Prop where
  pos : 1 ≤ month
  le : month ≤ 12
  first : firstDay month ≤ day
  last : day < firstDay (month + 1)

/-- The month in which a time lies. -/
def IsMonth (t : Rat) (month : Nat) : Prop := Holds month (daysTo t % 365).toNat

/-- The seconds of a year. -/
def year : Rat := 365 * 86400

/-! ## Hours -/

theorem secondsPerDay_exact : (secondsPerDay : Rat) = 86400 := by
  change (86400.0 : Rat) = 86400
  norm_num

theorem secondsPerHour_exact : (secondsPerHour : Rat) = 3600 := by
  change (3600.0 : Rat) = 3600
  norm_num

theorem timeOfDay_nonneg (t : Rat) : 0 ≤ timeOfDay t := by
  have h := Int.floor_le (t / 86400)
  unfold timeOfDay daysTo
  linarith

theorem timeOfDay_lt (t : Rat) : timeOfDay t < 86400 := by
  have h := Int.lt_floor_add_one (t / 86400)
  unfold timeOfDay daysTo
  linarith

theorem modulo_day (t : Rat) : Scalar.modulo t secondsPerDay = timeOfDay t := by
  rw [secondsPerDay_exact, modulo_exact t (by norm_num)]
  rfl

/-- No register is too small for an hour, and none lies behind the last one. -/
theorem isHour_iff {t : Rat} {hour : Nat} : IsHour t hour ↔ hour = hourOfDay t := by
  have low : 0 ≤ ⌊timeOfDay t / 3600⌋ :=
    Int.floor_nonneg.2 (div_nonneg (timeOfDay_nonneg t) (by norm_num))
  have high : ⌊timeOfDay t / 3600⌋ < 24 := by
    have := timeOfDay_lt t
    rw [Int.floor_lt]
    push_cast
    linarith
  have read : hourOfDay t = min (min (pow2 64 - 1) ⌊timeOfDay t / 3600⌋.toNat) 23 := by
    unfold hourOfDay
    rw [modulo_day, secondsPerHour_exact]
    rfl
  have wide : 23 ≤ pow2 64 - 1 := by decide
  unfold IsHour
  omega

/-! ## Months -/

/-- The search for a month counts how many of them end at or before the day. The induction is on the
months that are left, with the days that are left. -/
theorem monthHolding_between {lengths : List Nat} {day : Nat} (month : Nat)
    (h : day < lengths.sum) :
    ∃ i < lengths.length, monthHolding day month lengths = month + i ∧
      (lengths.take i).sum ≤ day ∧ day < (lengths.take (i + 1)).sum := by
  induction lengths generalizing day month with
  | nil => simp at h
  | cons length rest ih =>
    unfold monthHolding
    by_cases hday : day < length
    · exact ⟨0, by simp, if_pos hday, by simp, by simpa using hday⟩
    · rw [List.sum_cons] at h
      have left : day - length < rest.sum := by omega
      obtain ⟨i, hi, hmonth, hfirst, hlast⟩ := ih (month + 1) left
      refine ⟨i + 1, by simpa using hi, ?_, ?_, ?_⟩
      · rw [if_neg hday, hmonth]
        omega
      · rw [List.take_succ_cons, List.sum_cons]
        omega
      · rw [List.take_succ_cons, List.sum_cons]
        omega

/-- A month starts when those in front of it are over. -/
theorem sum_take_monthLengths : ∀ i ≤ 12, (monthLengths.take i).sum = firstDay (i + 1) := by decide

theorem firstDay_mono : ∀ m ≤ 13, ∀ n ≤ 13, m ≤ n → firstDay m ≤ firstDay n := by decide

theorem holds_monthHolding {day : Nat} (h : day < 365) :
    Holds (monthHolding day 1 monthLengths) day := by
  have within : day < monthLengths.sum := h
  obtain ⟨i, hi, hmonth, hfirst, hlast⟩ := monthHolding_between 1 within
  have hi : i < 12 := hi
  rw [sum_take_monthLengths i (by omega)] at hfirst
  rw [sum_take_monthLengths (i + 1) (by omega)] at hlast
  rw [hmonth, Nat.add_comm 1 i]
  exact ⟨by omega, by omega, hfirst, hlast⟩

/-- No day lies in two months. -/
theorem Holds.unique {m n day : Nat} (hm : Holds m day) (hn : Holds n day) : m = n := by
  have mono := firstDay_mono
  have := hm.first
  have := hm.last
  have := hm.le
  have := hn.first
  have := hn.last
  have := hn.le
  rcases Nat.lt_trichotomy m n with h | h | h
  · have := mono (m + 1) (by omega) n (by omega) h
    omega
  · exact h
  · have := mono (n + 1) (by omega) m (by omega) h
    omega

theorem dayNumber_exact {t : Rat} (fits : DayFits t) : dayNumber t = daysTo t := by
  obtain ⟨low, high⟩ := fits
  have read : dayNumber t = max (-(pow2 63 : Int)) (min (pow2 63 - 1) (daysTo t)) := by
    unfold dayNumber
    rw [secondsPerDay_exact]
    rfl
  have register : (pow2 63 : Int) = 2 ^ 63 := rfl
  omega

theorem isMonth_iff {t : Rat} (fits : DayFits t) {month : Nat} :
    IsMonth t month ↔ month = monthOfYear t := by
  have day : dayOfYear t = (daysTo t % 365).toNat := by
    unfold dayOfYear
    rw [dayNumber_exact fits]
    rfl
  have held : IsMonth t (monthOfYear t) := by
    unfold IsMonth monthOfYear
    rw [day]
    exact holds_monthHolding (by omega)
  constructor
  · intro h
    exact h.unique held
  · rintro rfl
    exact held

/-! ## A year later -/

theorem daysTo_year (t : Rat) : daysTo (t + year) = daysTo t + 365 := by
  have h : (t + year) / 86400 = t / 86400 + (365 : Int) := by
    unfold year
    push_cast
    ring
  unfold daysTo
  rw [h, Int.floor_add_intCast]

theorem timeOfDay_year (t : Rat) : timeOfDay (t + year) = timeOfDay t := by
  unfold timeOfDay
  rw [daysTo_year]
  unfold year
  push_cast
  ring

theorem hourOfDay_year (t : Rat) : hourOfDay (t + year) = hourOfDay t := by
  rw [← isHour_iff]
  unfold IsHour
  rw [← timeOfDay_year]
  exact isHour_iff.2 rfl

theorem isMonth_year {t : Rat} {month : Nat} : IsMonth (t + year) month ↔ IsMonth t month := by
  unfold IsMonth
  rw [daysTo_year, Int.add_emod_right]

theorem monthOfYear_year {t : Rat} (fits : DayFits t) (later : DayFits (t + year)) :
    monthOfYear (t + year) = monthOfYear t := by
  rw [← isMonth_iff fits, ← isMonth_year]
  exact (isMonth_iff later).2 rfl

end BuildingEmulation.Calendar
