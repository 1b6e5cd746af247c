import BuildingEmulation.Price
import BuildingEmulation.Proofs.Calendar

/-!
# Prices by the calendar

At any time it is some hour of some month, and of the periods in force then the first one in the
list sets the price. So all that a period does to prices lies in the hours and months in which it is
in force and in what stands in front of it: it may be cut in two at midnight, and one without any
hour may be left out.

Results:
* `PriceSchedule.validate_ok_iff`: the schedules that are valid.
* `PriceSchedule.asks_iff`: the price in an hour of a month.
* `PriceSchedule.priceIn_cut`, `PriceSchedule.priceIn_void`: changes that no price shows.
* `PriceSchedule.priceAt_calendar`: the price at a time.
-/
namespace BuildingEmulation

variable {α : Type}

/-! ## Periods -/

namespace PricePeriod

variable {p : PricePeriod α} {hour month : Nat}

/-- The hours go from the start of a period up to its end, past midnight if it ends before it
starts. -/
structure InForce (p : PricePeriod α) (hour month : Nat) : Prop where
  month : p.months = [] ∨ month ∈ p.months
  hour : if p.startHour ≤ p.endHour then p.startHour ≤ hour ∧ hour < p.endHour
    else p.startHour ≤ hour ∨ hour < p.endHour

theorem holdsMonth_iff : p.holdsMonth month = true ↔ p.months = [] ∨ month ∈ p.months := by
  unfold holdsMonth
  rw [Bool.or_eq_true, List.isEmpty_iff, List.contains_iff_mem]

theorem holdsHour_iff : p.holdsHour hour = true ↔
    if p.startHour ≤ p.endHour then p.startHour ≤ hour ∧ hour < p.endHour
    else p.startHour ≤ hour ∨ hour < p.endHour := by
  unfold holdsHour
  split <;> simp

theorem appliesTo_iff : p.appliesTo hour month = true ↔ p.InForce hour month := by
  unfold appliesTo
  rw [Bool.and_eq_true, holdsMonth_iff, holdsHour_iff]
  exact ⟨fun h => ⟨h.1, h.2⟩, fun h => ⟨h.month, h.hour⟩⟩

theorem not_appliesTo_iff : (!p.appliesTo hour month) = true ↔ ¬ p.InForce hour month := by
  rw [Bool.not_eq_true', ← appliesTo_iff, Bool.not_eq_true]

/-- The hours of a period up to midnight. -/
def evening (p : PricePeriod α) : PricePeriod α := { p with endHour := 24 }

/-- The hours of a period from midnight on. -/
def morning (p : PricePeriod α) : PricePeriod α := { p with startHour := 0 }

/-- A period that goes past midnight is in force in its evening and in its morning. It has to start
before midnight itself, since its evening would go past midnight otherwise. -/
theorem appliesTo_cut (past : p.endHour < p.startHour) (start : p.startHour < 24) (h : hour < 24) :
    p.appliesTo hour month =
      (p.evening.appliesTo hour month || p.morning.appliesTo hour month) := by
  have whole : p.holdsHour hour = true ↔ p.startHour ≤ hour ∨ hour < p.endHour :=
    holdsHour_iff.trans (iff_of_eq (if_neg (not_le.2 past)))
  have evening : p.evening.holdsHour hour = true ↔ p.startHour ≤ hour ∧ hour < 24 :=
    holdsHour_iff.trans (iff_of_eq (if_pos start.le))
  have morning : p.morning.holdsHour hour = true ↔ 0 ≤ hour ∧ hour < p.endHour :=
    holdsHour_iff.trans (iff_of_eq (if_pos (Nat.zero_le _)))
  have cut : p.holdsHour hour = (p.evening.holdsHour hour || p.morning.holdsHour hour) := by
    rw [Bool.eq_iff_iff, Bool.or_eq_true, whole, evening, morning]
    omega
  unfold appliesTo
  rw [cut, Bool.and_or_distrib_left]
  rfl

/-- A period that ends where it starts is never in force. -/
theorem appliesTo_void (void : p.startHour = p.endHour) : p.appliesTo hour month = false := by
  rw [Bool.eq_false_iff, ne_eq, appliesTo_iff]
  rintro ⟨-, h⟩
  rw [if_pos void.le] at h
  omega

/-- Finite prices, hours of a day and months of a year. -/
structure Valid [Scalar α] (p : PricePeriod α) : Prop where
  price : Scalar.isFinite p.price = true
  start : p.startHour ≤ 23
  stop : p.endHour ≤ 24
  months : ∀ month ∈ p.months, 1 ≤ month ∧ month ≤ 12

theorem Valid.evening [Scalar α] (h : p.Valid) : p.evening.Valid :=
  ⟨h.price, h.start, le_rfl, h.months⟩

theorem Valid.morning [Scalar α] (h : p.Valid) : p.morning.Valid :=
  ⟨h.price, Nat.zero_le 23, h.stop, h.months⟩

end PricePeriod

/-! ## Schedules -/

namespace PriceSchedule

variable {s : PriceSchedule α}

/-- The schedule with other periods over the same base price. -/
def withPeriods (s : PriceSchedule α) (periods : List (PricePeriod α)) : PriceSchedule α :=
  { s with periods }

section

variable [Scalar α]

theorem periodFault?_eq_none_iff {p : PricePeriod α} : periodFault? p = none ↔ p.Valid := by
  have months : p.months.find? (fun m => m < 1 || 12 < m) = none ↔
      ∀ month ∈ p.months, 1 ≤ month ∧ month ≤ 12 := by
    rw [List.find?_eq_none]
    refine forall₂_congr fun month _ => ?_
    rw [Bool.or_eq_true, decide_eq_true_eq, decide_eq_true_eq]
    omega
  unfold periodFault?
  split
  · next hprice =>
    refine ⟨nofun, fun h => ?_⟩
    simp [h.price] at hprice
  · next hprice =>
    split
    · next hhours =>
      refine ⟨nofun, fun h => ?_⟩
      have := h.start
      have := h.stop
      rw [Bool.or_eq_true, decide_eq_true_eq, decide_eq_true_eq] at hhours
      omega
    · next hhours =>
      rw [Option.map_eq_none_iff, months]
      rw [Bool.or_eq_true, decide_eq_true_eq, decide_eq_true_eq] at hhours
      refine ⟨fun h => ⟨by simpa using hprice, by omega, by omega, h⟩, fun h => h.months⟩

/-- A schedule is valid if its base price is finite and all its periods are valid. -/
theorem validate_ok_iff :
    s.validate = .ok () ↔ Scalar.isFinite s.base = true ∧ ∀ p ∈ s.periods, p.Valid := by
  unfold validate
  split
  · next hbase =>
    refine ⟨nofun, fun h => ?_⟩
    simp [h.1] at hbase
  · next hbase =>
    have periods : s.periods.findSome? periodFault? = none ↔ ∀ p ∈ s.periods, p.Valid := by
      rw [List.findSome?_eq_none_iff]
      exact forall₂_congr fun p _ => periodFault?_eq_none_iff
    rw [← periods]
    split
    · next fault hfault => simp [hfault]
    · next hfault => simpa [hfault] using hbase

theorem validate_withPeriods (valid : s.validate = .ok ()) {periods : List (PricePeriod α)}
    (h : ∀ p ∈ periods, p.Valid) : (s.withPeriods periods).validate = .ok () :=
  validate_ok_iff.2 ⟨(validate_ok_iff.1 valid).1, h⟩

end

variable {hour month : Nat}

/-- The price of the first period that is in force, and the base price if there is none. -/
inductive Asks (s : PriceSchedule α) (hour month : Nat) : α → Prop
  | period (before : List (PricePeriod α)) (p : PricePeriod α) (after : List (PricePeriod α))
      (place : s.periods = before ++ p :: after) (inForce : p.InForce hour month)
      (first : ∀ q ∈ before, ¬ q.InForce hour month) : Asks s hour month p.price
  | base (idle : ∀ p ∈ s.periods, ¬ p.InForce hour month) : Asks s hour month s.base

theorem asks_priceIn (s : PriceSchedule α) (hour month : Nat) :
    s.Asks hour month (s.priceIn hour month) := by
  unfold priceIn
  split
  · next p hp =>
    obtain ⟨inForce, before, after, place, first⟩ := List.find?_eq_some_iff_append.1 hp
    refine .period before p after place (PricePeriod.appliesTo_iff.1 inForce) ?_
    exact fun q hq => PricePeriod.not_appliesTo_iff.1 (first q hq)
  · next hidle =>
    refine .base fun p hp force => ?_
    exact List.find?_eq_none.1 hidle p hp (PricePeriod.appliesTo_iff.2 force)

/-- There is one price in an hour of a month. -/
theorem asks_iff {x : α} : s.Asks hour month x ↔ x = s.priceIn hour month := by
  constructor
  · intro h
    unfold priceIn
    cases h with
    | period before p after place inForce first =>
      have found : s.periods.find? (·.appliesTo hour month) = some p := by
        rw [List.find?_eq_some_iff_append]
        exact ⟨PricePeriod.appliesTo_iff.2 inForce, before, after, place,
          fun q hq => PricePeriod.not_appliesTo_iff.2 (first q hq)⟩
      rw [found]
    | base idle =>
      have missing : s.periods.find? (·.appliesTo hour month) = none := by
        rw [List.find?_eq_none]
        intro p hp
        rw [PricePeriod.appliesTo_iff]
        exact idle p hp
      rw [missing]
  · rintro rfl
    exact s.asks_priceIn hour month

/-- Only the price of the first period that is in force shows. -/
theorem priceIn_congr {s' : PriceSchedule α} (base : s'.base = s.base)
    (same : (s'.periods.find? (·.appliesTo hour month)).map (·.price) =
      (s.periods.find? (·.appliesTo hour month)).map (·.price)) :
    s'.priceIn hour month = s.priceIn hour month := by
  have price (s : PriceSchedule α) : s.priceIn hour month =
      ((s.periods.find? (·.appliesTo hour month)).map (·.price)).getD s.base := by
    unfold priceIn
    cases s.periods.find? (·.appliesTo hour month) <;> rfl
  rw [price, price, same, base]

variable {before after : List (PricePeriod α)} {p : PricePeriod α}

theorem priceIn_cut (place : s.periods = before ++ p :: after) (past : p.endHour < p.startHour)
    (start : p.startHour < 24) (h : hour < 24) :
    (s.withPeriods (before ++ p.evening :: p.morning :: after)).priceIn hour month =
      s.priceIn hour month := by
  refine priceIn_congr rfl ?_
  have cut : p.appliesTo hour month = _ := PricePeriod.appliesTo_cut past start h
  simp only [withPeriods, place, List.find?_append, List.find?_cons, cut]
  cases before.find? (·.appliesTo hour month) with
  | some q => rfl
  | none =>
    cases p.evening.appliesTo hour month with
    | true => rfl
    | false => cases p.morning.appliesTo hour month <;> rfl

theorem priceIn_void (place : s.periods = before ++ p :: after) (void : p.startHour = p.endHour) :
    (s.withPeriods (before ++ after)).priceIn hour month = s.priceIn hour month := by
  refine priceIn_congr rfl ?_
  have idle : p.appliesTo hour month = false := PricePeriod.appliesTo_void void
  simp only [withPeriods, place, List.find?_append, List.find?_cons, idle]

/-! ## The price at a time -/

/-- A valid schedule tells the price of every time whose day has a number: it is some hour of one
month, and the price of that hour in that month is asked. A year later the price is the same again;
and whatever the time is, no price tells whether a period that goes past midnight was cut there, or
whether one without hours was left out. -/
theorem priceAt_calendar {s : PriceSchedule Rat} {t : Rat} (valid : s.validate = .ok ())
    (fits : Calendar.DayFits t) :
    (∃ hour month, (∀ h, Calendar.IsHour t h ↔ h = hour) ∧ (∀ m, Calendar.IsMonth t m ↔ m = month) ∧
      ∀ x, s.Asks hour month x ↔ x = s.priceAt t) ∧
    (Calendar.DayFits (t + Calendar.year) → s.priceAt (t + Calendar.year) = s.priceAt t) ∧
    (∀ before p after, s.periods = before ++ p :: after → p.endHour < p.startHour →
      (s.withPeriods (before ++ p.evening :: p.morning :: after)).validate = .ok () ∧
        ∀ u, (s.withPeriods (before ++ p.evening :: p.morning :: after)).priceAt u = s.priceAt u) ∧
    ∀ before p after, s.periods = before ++ p :: after → p.startHour = p.endHour →
      (s.withPeriods (before ++ after)).validate = .ok () ∧
        ∀ u, (s.withPeriods (before ++ after)).priceAt u = s.priceAt u := by
  obtain ⟨-, periods⟩ := validate_ok_iff.1 valid
  refine ⟨⟨Calendar.hourOfDay t, Calendar.monthOfYear t, fun h => ?_, fun m => ?_, fun x => ?_⟩,
    fun later => ?_, fun before p after place past => ?_, fun before p after place void => ?_⟩
  · exact Calendar.isHour_iff
  · exact Calendar.isMonth_iff fits
  · exact asks_iff
  · unfold priceAt
    rw [Calendar.hourOfDay_year, Calendar.monthOfYear_year fits later]
  · rw [place, List.forall_mem_append, List.forall_mem_cons] at periods
    obtain ⟨hbefore, hp, hafter⟩ := periods
    refine ⟨validate_withPeriods valid ?_, fun u => ?_⟩
    · rw [List.forall_mem_append, List.forall_mem_cons, List.forall_mem_cons]
      exact ⟨hbefore, hp.evening, hp.morning, hafter⟩
    · exact priceIn_cut place past (Nat.lt_succ_of_le hp.start) (Calendar.hourOfDay_lt u)
  · rw [place, List.forall_mem_append, List.forall_mem_cons] at periods
    obtain ⟨hbefore, -, hafter⟩ := periods
    refine ⟨validate_withPeriods valid ?_, fun u => ?_⟩
    · rw [List.forall_mem_append]
      exact ⟨hbefore, hafter⟩
    · exact priceIn_void place void

/-- A price for July. -/
def july : PricePeriod Rat := { months := [7], price := 1 / 2 }

/-- A period that is never in force. -/
def never : PricePeriod Rat := { startHour := 5, endHour := 5, price := 9 }

/-- A price for the nights. -/
def night : PricePeriod Rat := { startHour := 22, endHour := 6, price := 1 / 10 }

def tariff : PriceSchedule Rat := { base := 1 / 5, periods := [july, never, night] }

/-- The last hour before the start. -/
theorem priceAt_calendar_newYear :
    tariff.validate = .ok () ∧ Calendar.DayFits (-3600) ∧ Calendar.DayFits (-3600 + Calendar.year) ∧
      Calendar.IsHour (-3600) 23 ∧ Calendar.IsMonth (-3600) 12 ∧ tariff.Asks 23 12 (1 / 10) ∧
      tariff.priceAt (-3600 + Calendar.year) = 1 / 10 ∧
      (tariff.withPeriods [july, never, night.evening, night.morning]).priceAt (-3600) = 1 / 10 ∧
      (tariff.withPeriods [july, night]).priceAt (-3600) = 1 / 10 := by
  have valid : tariff.validate = .ok () := by decide +kernel
  have fits : Calendar.DayFits (-3600) := by decide +kernel
  have later : Calendar.DayFits (-3600 + Calendar.year) := by decide +kernel
  have hour : 23 = Calendar.hourOfDay (-3600 : Rat) := by decide +kernel
  have month : 12 = Calendar.monthOfYear (-3600 : Rat) := by decide +kernel
  have price : tariff.priceAt (-3600) = 1 / 10 := by decide +kernel
  obtain ⟨⟨h, m, hours, months, asks⟩, yearly, cut, void⟩ := priceAt_calendar valid fits
  have isHour : Calendar.IsHour (-3600) 23 := Calendar.isHour_iff.2 hour
  have isMonth : Calendar.IsMonth (-3600) 12 := (Calendar.isMonth_iff fits).2 month
  obtain rfl := (hours 23).1 isHour
  obtain rfl := (months 12).1 isMonth
  obtain ⟨-, hcut⟩ := cut [july, never] night [] rfl (by decide)
  obtain ⟨-, hvoid⟩ := void [july] never [night] rfl rfl
  exact ⟨valid, fits, later, isHour, isMonth, (asks _).2 price.symm, (yearly later).trans price,
    (hcut _).trans price, (hvoid _).trans price⟩

end PriceSchedule

end BuildingEmulation
