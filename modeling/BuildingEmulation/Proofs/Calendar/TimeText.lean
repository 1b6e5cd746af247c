import BuildingEmulation.Proofs.Calendar

/-!
# Texts of times

The text of a time names the day that the time lies in, and the seconds since its midnight rounded to
whole ones. The two are computed apart. In the last half second of a day the rounding reaches the next
midnight and the day does not follow: the text still names the right second, but as the
twenty-fourth hour of a day that has only the hours up to the twenty-third.

Results:
* `twoDigits_eq`: numbers below a hundred are written as tens and ones.
* `timeText_eq`: what is written for a time.
* `seconds_shown`: it names the nearest second.
* `onClock_iff`: where a time of day is written that a clock can show.
* `not_timeText_onClock`: not everywhere.
-/
namespace BuildingEmulation.Calendar

/-! ## Stamps -/

/-- A day and a time of day. -/
structure Stamp where
  day : Int
  hour : Nat
  minute : Nat
  second : Nat

namespace Stamp

/-- The tens and the ones of a number. -/
def pair (n : Nat) : List Char := [Nat.digitChar (n / 10), Nat.digitChar (n % 10)]

/-- `hh:mm:ss` -/
def clockChars (s : Stamp) : List Char :=
  pair s.hour ++ ':' :: (pair s.minute ++ ':' :: pair s.second)

/-- `day D hh:mm:ss` -/
def text (s : Stamp) : String := "day " ++ toString s.day ++ " " ++ String.ofList s.clockChars

/-- A time of day from midnight to a second before the next. -/
structure OnClock (s : Stamp) : Prop where
  hour : s.hour ≤ 23
  minute : s.minute ≤ 59
  second : s.second ≤ 59

/-- The seconds from the start to what the stamp names. -/
def seconds (s : Stamp) : Int := s.day * 86400 + s.hour * 3600 + s.minute * 60 + s.second

theorem digitChar_inj : ∀ a < 10, ∀ b < 10, Nat.digitChar a = Nat.digitChar b → a = b := by decide

/-- Stamps with the same text have the same hour, as long as it has two digits. -/
theorem hour_of_text {a b : Stamp} (ha : a.hour < 100) (hb : b.hour < 100) (h : a.text = b.text) :
    a.hour = b.hour := by
  have chars := congrArg String.toList h
  simp only [text, String.toList_append, String.toList_ofList] at chars
  -- the time of day is what the last eight characters say, however long the number of the day is
  have clock : a.clockChars = b.clockChars := (List.append_inj' chars rfl).2
  have digits : pair a.hour = pair b.hour := (List.append_inj clock rfl).1
  unfold pair at digits
  injection digits with tens ones
  injection ones with ones
  have := digitChar_inj _ (by omega) _ (by omega) tens
  have := digitChar_inj _ (by omega) _ (by omega) ones
  omega

end Stamp

/-! ## What is written -/

theorem twoDigits_eq {n : Nat} (h : n < 100) : twoDigits n = String.ofList (Stamp.pair n) := by
  have chars : Decimal.zeros (2 - (Decimal.digitsOf n).length) ++ Decimal.digitsOf n =
      Stamp.pair n := by
    unfold Decimal.digitsOf Stamp.pair
    by_cases one : n < 10
    · rw [Nat.toDigits_of_lt_base one, Nat.div_eq_of_lt one, Nat.mod_eq_of_lt one]
      rfl
    · have tens : n / 10 < 10 := by omega
      rw [Nat.toDigits_eq_if (by decide), if_neg one, Nat.toDigits_of_lt_base tens]
      rfl
  exact congrArg String.ofList chars

/-- The whole second nearest to a time, the later one of two. -/
def nearestSecond (t : Rat) : Int := ⌊t + 1 / 2⌋

/-- The seconds since midnight, rounded. -/
def secondOfDay (t : Rat) : Nat := (nearestSecond (timeOfDay t)).toNat

/-- The stamp of a time: its day, and the time of day in whole seconds. -/
def shown (t : Rat) : Stamp where
  day := daysTo t
  hour := secondOfDay t / 3600
  minute := secondOfDay t % 3600 / 60
  second := secondOfDay t % 60

variable {t : Rat}

theorem secondOfDay_eq (t : Rat) : (secondOfDay t : Int) = nearestSecond (timeOfDay t) := by
  have low : 0 ≤ nearestSecond (timeOfDay t) := by
    have := timeOfDay_nonneg t
    exact Int.floor_nonneg.2 (by linarith)
  exact Int.toNat_of_nonneg low

/-- The rounding reaches midnight in the last half second. -/
theorem secondOfDay_lt_iff : secondOfDay t < 86400 ↔ timeOfDay t < 86400 - 1 / 2 := by
  have h : nearestSecond (timeOfDay t) < 86400 ↔ timeOfDay t < 86400 - 1 / 2 := by
    unfold nearestSecond
    rw [Int.floor_lt]
    push_cast
    constructor <;> intro h <;> linarith
  rw [← h, ← secondOfDay_eq]
  omega

/-- It does not lead past midnight. -/
theorem secondOfDay_le (t : Rat) : secondOfDay t ≤ 86400 := by
  have h : nearestSecond (timeOfDay t) < 86401 := by
    have := timeOfDay_lt t
    unfold nearestSecond
    rw [Int.floor_lt]
    push_cast
    linarith
  have := secondOfDay_eq t
  omega

theorem timeText_eq (fits : DayFits t) : timeText t = (shown t).text := by
  have within : Scalar.inUnsigned64 (timeOfDay t) (Scalar.nearest? (timeOfDay t)) = secondOfDay t := by
    have read : Scalar.nearest? (timeOfDay t) = some (nearestSecond (timeOfDay t)) := by
      have hn : ¬ timeOfDay t < 0 := not_lt.2 (timeOfDay_nonneg t)
      change some (if timeOfDay t < 0 then _ else (timeOfDay t + 1 / 2).floor) = _
      rw [if_neg hn]
      rfl
    have wide : 86400 ≤ pow2 64 - 1 := by decide
    have := secondOfDay_le t
    rw [read]
    change min (pow2 64 - 1) (secondOfDay t) = _
    omega
  have bound := secondOfDay_le t
  have hour : secondOfDay t / 3600 < 100 := by omega
  have minute : secondOfDay t % 3600 / 60 < 100 := by omega
  have second : secondOfDay t % 60 < 100 := by omega
  unfold timeText
  simp only [modulo_day, within, dayNumber_exact fits, twoDigits_eq hour, twoDigits_eq minute,
    twoDigits_eq second]
  apply String.toList_inj.1
  have self (s : String) : toString s = s := rfl
  simp only [Stamp.text, Stamp.clockChars, shown, self, String.toList_append, String.toList_ofList,
    List.append_assoc]
  rfl

/-! ## What it names -/

theorem seconds_shown (t : Rat) : (shown t).seconds = nearestSecond t := by
  have apart : nearestSecond t = daysTo t * 86400 + secondOfDay t := by
    have split : t + 1 / 2 = timeOfDay t + 1 / 2 + ((daysTo t * 86400 : Int) : Rat) := by
      unfold timeOfDay
      push_cast
      ring
    rw [secondOfDay_eq]
    unfold nearestSecond
    rw [split, Int.floor_add_intCast, add_comm]
  rw [apart]
  unfold Stamp.seconds shown
  push_cast
  omega

/-- The stamp of a time shows a time of day unless it is the last half second of the day. -/
theorem shown_cases (t : Rat) :
    (shown t).OnClock ∧ timeOfDay t < 86400 - 1 / 2 ∨
      shown t = ⟨daysTo t, 24, 0, 0⟩ ∧ 86400 - 1 / 2 ≤ timeOfDay t := by
  have bound := secondOfDay_le t
  by_cases h : secondOfDay t < 86400
  · refine .inl ⟨⟨?_, ?_, ?_⟩, secondOfDay_lt_iff.1 h⟩ <;> simp only [shown] <;> omega
  · have full : secondOfDay t = 86400 := by omega
    refine .inr ⟨?_, not_lt.1 fun hlt => h (secondOfDay_lt_iff.2 hlt)⟩
    unfold shown
    rw [full]

/-- A valid time of day is written for the nearest second exactly if that second is in the same
day. -/
theorem onClock_iff (fits : DayFits t) :
    (∃ s : Stamp, timeText t = s.text ∧ s.OnClock ∧ s.seconds = nearestSecond t) ↔
      timeOfDay t < 86400 - 1 / 2 := by
  rcases shown_cases t with ⟨clock, early⟩ | ⟨full, late⟩
  · exact iff_of_true ⟨shown t, timeText_eq fits, clock, seconds_shown t⟩ early
  · refine iff_of_false ?_ (not_lt.2 late)
    rintro ⟨s, text, clock, -⟩
    rw [timeText_eq fits, full] at text
    have hour : 24 = s.hour := Stamp.hour_of_text (show 24 < 100 by decide) (by have := clock.hour; omega) text
    have := clock.hour
    omega

/-- What is written for a time names its day and the nearest second. The time of day is one that a clock
can show, but for the last half second of the day: there it is the twenty-fourth hour. -/
theorem timeText_names (fits : DayFits t) :
    (∃ s : Stamp, timeText t = s.text ∧ s.day = daysTo t ∧ s.seconds = nearestSecond t ∧
      (s.OnClock ∨ s.hour = 24 ∧ s.minute = 0 ∧ s.second = 0)) ∧
    ((∃ s : Stamp, timeText t = s.text ∧ s.OnClock ∧ s.seconds = nearestSecond t) ↔
      timeOfDay t < 86400 - 1 / 2) := by
  refine ⟨⟨shown t, timeText_eq fits, rfl, seconds_shown t, ?_⟩, onClock_iff fits⟩
  rcases shown_cases t with ⟨clock, -⟩ | ⟨full, -⟩
  · exact .inl clock
  · rw [full]
    exact .inr ⟨rfl, rfl, rfl⟩

/-- Half a second before the start is as good as the start, and is written as the end of the day
before. -/
theorem timeText_names_eve :
    DayFits (-1 / 2) ∧ timeText (-1 / 2 : Rat) = "day -1 24:00:00" ∧
      (∃ s : Stamp, timeText (-1 / 2 : Rat) = s.text ∧ s.day = -1 ∧ s.seconds = 0 ∧
        (s.OnClock ∨ s.hour = 24 ∧ s.minute = 0 ∧ s.second = 0)) ∧
      ¬ ∃ s : Stamp, timeText (-1 / 2 : Rat) = s.text ∧ s.OnClock ∧ s.seconds = 0 := by
  have fits : DayFits (-1 / 2) := by decide +kernel
  have day : daysTo (-1 / 2) = -1 := by decide +kernel
  have nearest : nearestSecond (-1 / 2) = 0 := by decide +kernel
  obtain ⟨named, clock⟩ := timeText_names fits
  rw [day, nearest] at named
  rw [nearest] at clock
  exact ⟨fits, by decide +kernel, named, fun h => absurd (clock.1 h) (by decide +kernel)⟩

/-- In the last half second of a day no time of day is written that a clock can show. -/
theorem not_timeText_onClock :
    ¬ ∀ t : Rat, DayFits t →
      ∃ s : Stamp, timeText t = s.text ∧ s.OnClock ∧ s.seconds = nearestSecond t := by
  intro h
  have fits : DayFits (172799 / 2) := by decide +kernel
  exact absurd ((onClock_iff fits).1 (h _ fits)) (by decide +kernel)

end BuildingEmulation.Calendar
