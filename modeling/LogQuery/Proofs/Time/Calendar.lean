import Mathlib.Tactic.IntervalCases
import LogQuery.Time.Calendar

/-! A date is told by its number of days, and years follow one another as these do. -/

set_option autoImplicit false

namespace LogQuery.Time

/-- The year within 400, by its century, its four years and its place in these, from a day of it.
Its last day is the 366th only in the last of four years, less the last of a century but one in
four. -/
theorem yearOfEra_eq {century four place day : Int} (century_bounds : 0 ≤ century ∧ century ≤ 3)
    (four_bounds : 0 ≤ four ∧ four ≤ 24) (place_bounds : 0 ≤ place ∧ place ≤ 3)
    (day_bounds : 0 ≤ day ∧ day ≤ 365)
    (leap : day = 365 → place = 3 ∧ (four < 24 ∨ century = 3)) {dayOfEra : Int}
    (counted : dayOfEra = 36524 * century + 1461 * four + 365 * place + day) :
    (dayOfEra - dayOfEra / 1460 + dayOfEra / 36524 - dayOfEra / 146096) / 365 =
      100 * century + 4 * four + place := by
  have centuries : dayOfEra / 36524 - dayOfEra / 146096 = century := by
    by_cases last : day = 365 ∧ four = 24
    · have := leap last.1
      omega
    · have whole : dayOfEra / 36524 = century := by omega
      have era : dayOfEra / 146096 = 0 := by omega
      omega
  -- four years have a day more than 1460, so the next four may be counted early, but in the last
  -- year of these
  have fours : dayOfEra / 1460 = 25 * century + four ∧ day < 365 ∨
      dayOfEra / 1460 = 25 * century + four + 1 ∧ 0 < day := by
    by_cases before : 24 * century + four + 365 * place + day < 1460
    · left
      have count : dayOfEra / 1460 = 25 * century + four := by omega
      omega
    · right
      have count : dayOfEra / 1460 = 25 * century + four + 1 := by omega
      omega
  omega

theorem exists_place {dayOfEra : Int} (lower : 0 ≤ dayOfEra) (upper : dayOfEra < 146097) :
    ∃ century four place day : Int, (0 ≤ century ∧ century ≤ 3) ∧ (0 ≤ four ∧ four ≤ 24) ∧
      (0 ≤ place ∧ place ≤ 3) ∧ (0 ≤ day ∧ day ≤ 365) ∧
      (day = 365 → place = 3 ∧ (four < 24 ∨ century = 3)) ∧
      dayOfEra = 36524 * century + 1461 * four + 365 * place + day := by
  obtain ⟨century, inCentury, century_bounds, century_day, counted⟩ :
      ∃ century inCentury : Int, (0 ≤ century ∧ century ≤ 3) ∧
        (0 ≤ inCentury ∧ (inCentury < 36524 ∨ inCentury = 36524 ∧ century = 3)) ∧
        dayOfEra = 36524 * century + inCentury := by
    by_cases last : dayOfEra = 146096
    · exact ⟨3, 36524, by decide, by decide, last⟩
    · exact ⟨dayOfEra / 36524, dayOfEra % 36524, by omega, by omega, by omega⟩
  obtain ⟨place, day, place_bounds, day_bounds, leap, counted_four⟩ :
      ∃ place day : Int, (0 ≤ place ∧ place ≤ 3) ∧ (0 ≤ day ∧ day ≤ 365) ∧
        (day = 365 → place = 3) ∧ inCentury % 1461 = 365 * place + day := by
    by_cases last : inCentury % 1461 = 1460
    · exact ⟨3, 365, by decide, by decide, fun _ => rfl, last⟩
    · exact ⟨inCentury % 1461 / 365, inCentury % 1461 % 365, by omega, by omega, by omega, by omega⟩
  exact ⟨century, inCentury / 1461, place, day, century_bounds, by omega, place_bounds, day_bounds,
    fun whole => ⟨leap whole, by omega⟩, by omega⟩

def daysOfYears (years : Int) : Int := years * 365 + years / 4 - years / 100

theorem daysOfYears_le {years more : Int} (fewer : years ≤ more) :
    daysOfYears years + 365 * (more - years) ≤ daysOfYears more := by
  have leap : years / 4 - years / 100 ≤ more / 4 - more / 100 := by omega
  rw [daysOfYears, daysOfYears]
  omega

theorem daysOfYears_era {years : Int} (lower : 0 ≤ years) (upper : years < 400) :
    365 * years ≤ daysOfYears years ∧ daysOfYears years ≤ 365 * years + 97 := by
  rw [daysOfYears]
  omega

theorem daysOfYears_place {century four place : Int} (four_bounds : 0 ≤ four ∧ four ≤ 24)
    (place_bounds : 0 ≤ place ∧ place ≤ 3) : daysOfYears (100 * century + 4 * four + place) =
      36524 * century + 1461 * four + 365 * place := by
  have fours : (100 * century + 4 * four + place) / 4 = 25 * century + four := by omega
  have centuries : (100 * century + 4 * four + place) / 100 = century := by omega
  rw [daysOfYears, fours, centuries]
  omega

/-- A day among 400 years by its year, as `ofDays` finds it, and its place in that. -/
theorem exists_year {dayOfEra : Int} (lower : 0 ≤ dayOfEra) (upper : dayOfEra < 146097) :
    ∃ year day : Int, (0 ≤ year ∧ year < 400) ∧ (0 ≤ day ∧ day ≤ 365) ∧
      dayOfEra = daysOfYears year + day ∧
      (dayOfEra - dayOfEra / 1460 + dayOfEra / 36524 - dayOfEra / 146096) / 365 = year := by
  obtain ⟨century, four, place, day, century_bounds, four_bounds, place_bounds, day_bounds, leap,
    counted⟩ := exists_place lower upper
  refine ⟨100 * century + 4 * four + place, day, ?_, day_bounds, ?_,
    yearOfEra_eq century_bounds four_bounds place_bounds day_bounds leap counted⟩
  · clear leap counted
    omega
  · rw [daysOfYears_place four_bounds place_bounds]
    exact counted

theorem month_le_two_iff {day : Int} (lower : 0 ≤ day) (upper : day ≤ 365) :
    (if (5 * day + 2) / 153 < 10 then (5 * day + 2) / 153 + 3 else (5 * day + 2) / 153 - 9) ≤ 2 ↔
      306 ≤ day := by
  have tenth : 10 ≤ (5 * day + 2) / 153 ↔ 306 ≤ day := by omega
  split
  · omega
  · omega

theorem day_of_number {month day : Nat} (month_bounds : 1 ≤ month ∧ month ≤ 12)
    (day_bounds : 1 ≤ day ∧ day ≤ 31)
    (short : month ∈ [4, 6, 9, 11] → day ≤ 30) {fromMarch number : Int}
    (isMonth : fromMarch = ((month + 9) % 12 : Nat))
    (isNumber : number = (153 * fromMarch + 2) / 5 + day - 1) (year : number ≤ 365) :
    (5 * number + 2) / 153 = fromMarch ∧ number - (153 * fromMarch + 2) / 5 + 1 = day ∧
      (if fromMarch < 10 then fromMarch + 3 else fromMarch - 9) = month := by
  obtain ⟨lower, upper⟩ := month_bounds
  subst isNumber isMonth
  interval_cases month <;> simp at short ⊢ <;> omega

theorem daysInMonth_le (year : Int) (month : Nat) : daysInMonth year month ≤ 31 := by
  unfold daysInMonth
  split
  · split <;> decide
  all_goals decide

theorem daysInMonth_short {year : Int} {month : Nat} (short : month ∈ [4, 6, 9, 11]) :
    daysInMonth year month = 30 := by
  simp only [List.mem_cons, List.not_mem_nil, or_false] at short
  rcases short with rfl | rfl | rfl | rfl <;> rfl

theorem place_of_leap {year : Int} (leap : isLeapYear (year + 1) = true) :
    year % 400 % 4 = 3 ∧ (year % 400 % 100 / 4 < 24 ∨ year % 400 / 100 = 3) := by
  simp only [isLeapYear, Bool.and_eq_true, Bool.or_eq_true, beq_iff_eq, bne_iff_ne] at leap
  obtain ⟨four, century | era⟩ := leap
  · have inCentury : year % 400 % 100 = year % 100 := by omega
    refine ⟨by omega, .inl ?_⟩
    rw [inCentury]
    omega
  · exact ⟨by omega, .inr (by omega)⟩

namespace Date

variable {date : Date}

theorem bounds_of_isValid (valid : date.isValid = true) :
    (1 ≤ date.month ∧ date.month ≤ 12) ∧ 1 ≤ date.day ∧
      date.day ≤ daysInMonth date.year date.month := by
  simp only [isValid, Bool.and_eq_true, decide_eq_true_eq] at valid
  omega

def marchYear (date : Date) : Int := if date.month ≤ 2 then date.year - 1 else date.year

def dayFromMarch (date : Date) : Int :=
  (153 * ((date.month + 9) % 12 : Nat) + 2) / 5 + date.day - 1

/-- A year has 366 days from March on if it ends in a leap year's February. -/
theorem dayFromMarch_bounds (valid : date.isValid = true) :
    0 ≤ date.dayFromMarch ∧ date.dayFromMarch ≤ 365 ∧
      (date.dayFromMarch = 365 → isLeapYear (date.marchYear + 1) = true) := by
  obtain ⟨⟨lower, upper⟩, first, last⟩ := bounds_of_isValid valid
  obtain ⟨year, month, day⟩ := date
  simp only [dayFromMarch, marchYear] at *
  by_cases february : month = 2
  · subst february
    rw [daysInMonth] at last
    by_cases leap : isLeapYear year = true
    · rw [if_pos leap] at last
      refine ⟨by omega, by omega, fun _ => ?_⟩
      rwa [if_pos (Nat.le_refl 2), Int.sub_add_cancel]
    · rw [if_neg leap] at last
      exact ⟨by omega, by omega, fun whole => absurd whole (by omega)⟩
  · have long := last.trans (daysInMonth_le year month)
    interval_cases month <;> omega

theorem ofDays_toDays (valid : date.isValid = true) : ofDays date.toDays = date := by
  obtain ⟨month_bounds, first, last⟩ := bounds_of_isValid valid
  obtain ⟨day_lower, day_upper, leap⟩ := dayFromMarch_bounds valid
  have short (member : date.month ∈ [4, 6, 9, 11]) : date.day ≤ 30 :=
    daysInMonth_short member ▸ last
  have counting : date.dayFromMarch =
      (153 * ((date.month + 9) % 12 : Nat) + 2) / 5 + date.day - 1 := rfl
  obtain ⟨ofMonth, ofDay, number⟩ := day_of_number month_bounds
    ⟨first, last.trans (daysInMonth_le _ _)⟩ short rfl counting day_upper
  obtain ⟨year, isYear⟩ : ∃ year, year = date.marchYear % 400 := ⟨_, rfl⟩
  obtain ⟨day, isDay⟩ : ∃ day, day = year * 365 + year / 4 - year / 100 + date.dayFromMarch :=
    ⟨_, rfl⟩
  have counted : date.toDays + 719468 = date.marchYear / 400 * 146097 + day := by
    rw [isDay, isYear]
    exact Int.sub_add_cancel _ _
  have leapYear : date.dayFromMarch = 365 →
      year % 4 = 3 ∧ (year % 100 / 4 < 24 ∨ year / 100 = 3) := by
    rw [isYear]
    exact fun whole => place_of_leap (leap whole)
  -- without the leap days ahead of it the day is a number of years of 365 days
  have yearOf : (day - day / 1460 + day / 36524 - day / 146096) / 365 = year := by
    rw [@yearOfEra_eq (year / 100) (year % 100 / 4) (year % 4) date.dayFromMarch (by omega)
      (by omega) (by omega) ⟨day_lower, day_upper⟩ leapYear day (by omega)]
    omega
  have within : 0 ≤ day ∧ day < 146097 := by omega
  have era : (date.toDays + 719468) / 146097 = date.marchYear / 400 := by omega
  have dayInEra : (date.toDays + 719468) % 146097 = day := by omega
  have dayInYear : day - (365 * year + year / 4 - year / 100) = date.dayFromMarch := by omega
  have yearBegun : year + date.marchYear / 400 * 400 = date.marchYear := by omega
  have yearEnded : date.marchYear + (if (date.month : Int) ≤ 2 then 1 else 0) = date.year := by
    rw [marchYear]
    split <;> split <;> omega
  rw [ofDays]
  simp only [era, dayInEra, yearOf, dayInYear, ofMonth, ofDay, number, yearBegun]
  rw [yearEnded, Int.toNat_natCast, Int.toNat_natCast]

theorem toDays_within (valid : date.isValid = true) (lower : 0 ≤ date.year)
    (upper : date.year ≤ 9999) : -800000 ≤ date.toDays ∧ date.toDays ≤ 3200000 := by
  obtain ⟨day_lower, day_upper, _⟩ := dayFromMarch_bounds valid
  have counted : date.toDays = date.marchYear / 400 * 146097 + (date.marchYear % 400 * 365 +
      date.marchYear % 400 / 4 - date.marchYear % 400 / 100 + date.dayFromMarch) - 719468 := rfl
  have year : date.year - 1 ≤ date.marchYear ∧ date.marchYear ≤ date.year := by
    rw [marchYear]
    split <;> omega
  omega

/-! ### Years in their order -/

/-- Days to the first of March of a year, from that of year 0. -/
def daysToMarch (year : Int) : Int := year / 400 * 146097 + daysOfYears (year % 400)

theorem toDays_eq (date : Date) :
    date.toDays = daysToMarch date.marchYear + date.dayFromMarch - 719468 := by
  have counted : date.toDays = date.marchYear / 400 * 146097 +
    (daysOfYears (date.marchYear % 400) + date.dayFromMarch) - 719468 := rfl
  rw [counted, daysToMarch, Int.add_assoc]

theorem daysToMarch_le {year later : Int} (earlier : year ≤ later) :
    daysToMarch year + 365 * (later - year) ≤ daysToMarch later := by
  have first := @daysOfYears_era (year % 400) (by omega) (by omega)
  have second := @daysOfYears_era (later % 400) (by omega) (by omega)
  rw [daysToMarch, daysToMarch]
  by_cases sameEra : year / 400 = later / 400
  · have inEra := @daysOfYears_le (year % 400) (later % 400) (by omega)
    omega
  · omega

theorem toDays_lt {year later : Int} (month day : Nat) (earlier : year < later) :
    toDays ⟨year, month, day⟩ < toDays ⟨later, month, day⟩ := by
  have same : dayFromMarch ⟨year, month, day⟩ = dayFromMarch ⟨later, month, day⟩ := rfl
  have marches : marchYear ⟨year, month, day⟩ < marchYear ⟨later, month, day⟩ := by
    simp only [marchYear]
    split <;> omega
  have := daysToMarch_le (Int.le_of_lt marches)
  rw [toDays_eq, toDays_eq, same]
  omega

theorem number_of_day {number : Int} (lower : 0 ≤ number) (upper : number ≤ 365) :
    let fromMarch := (5 * number + 2) / 153
    let month := if fromMarch < 10 then fromMarch + 3 else fromMarch - 9
    (153 * ((month.toNat + 9) % 12 : Nat) + 2) / 5 +
      (number - (153 * fromMarch + 2) / 5 + 1).toNat - 1 = number := by
  intro fromMarch month
  have fromMarch_bounds : 0 ≤ fromMarch ∧ fromMarch ≤ 11 := by omega
  have day_bounds : 0 ≤ number - (153 * fromMarch + 2) / 5 := by omega
  have again : (((month.toNat + 9) % 12 : Nat) : Int) = fromMarch := by
    simp only [month]
    split <;> omega
  rw [again]
  omega

/-- A day by the March before: its number from there, and its year. -/
theorem exists_march_ofDays (days : Int) : ∃ march day : Int, (0 ≤ day ∧ day ≤ 365) ∧
    days = daysToMarch march + day - 719468 ∧
    (ofDays days).year = march + (if 306 ≤ day then 1 else 0) ∧
    (ofDays days).marchYear = march ∧ (ofDays days).dayFromMarch = day := by
  -- days fall into eras of 400 years, each of 146097 days
  obtain ⟨era, dayOfEra, isEra, isDayOfEra⟩ : ∃ era dayOfEra, (days + 719468) / 146097 = era ∧
      (days + 719468) % 146097 = dayOfEra := ⟨_, _, rfl, rfl⟩
  have counted : days = era * 146097 + dayOfEra - 719468 := by omega
  obtain ⟨year, day, year_bounds, day_bounds, whole, yearOf⟩ :=
    exists_year (by omega : 0 ≤ dayOfEra) (by omega)
  have dayInYear : dayOfEra - (365 * year + year / 4 - year / 100) = day := by
    rw [whole, daysOfYears]
    omega
  have isYear : (ofDays days).year = year + era * 400 + (if 306 ≤ day then 1 else 0) := by
    rw [ofDays]
    simp only [isEra, isDayOfEra, yearOf, dayInYear, month_le_two_iff day_bounds.1 day_bounds.2]
  refine ⟨year + era * 400, day, day_bounds, ?_, isYear, ?_, ?_⟩
  · have inEra : (year + era * 400) / 400 = era ∧ (year + era * 400) % 400 = year := by
      clear yearOf dayInYear whole isYear
      omega
    rw [daysToMarch, inEra.1, inEra.2, counted, whole, Int.add_assoc]
  · have isMonth : (ofDays days).month ≤ 2 ↔ 306 ≤ day := by
      rw [ofDays, ← month_le_two_iff day_bounds.1 day_bounds.2]
      simp only [isDayOfEra, yearOf, dayInYear]
      omega
    rw [marchYear, isYear]
    simp only [isMonth]
    split <;> omega
  · rw [dayFromMarch, ofDays]
    simp only [isDayOfEra, yearOf, dayInYear]
    exact number_of_day day_bounds.1 day_bounds.2

theorem ofDays_le (days : Int) : (ofDays days).month ≤ 12 ∧ (ofDays days).day ≤ 31 := by
  obtain ⟨year, day, -, day_bounds, whole, yearOf⟩ :=
    @exists_year ((days + 719468) % 146097) (by omega) (by omega)
  have dayInYear : (days + 719468) % 146097 - (365 * year + year / 4 - year / 100) = day := by
    rw [whole, daysOfYears]
    omega
  simp only [ofDays, yearOf, dayInYear]
  omega

theorem toDays_ofDays (days : Int) : (ofDays days).toDays = days := by
  obtain ⟨march, day, _, counted, _, isMarch, isDay⟩ := exists_march_ofDays days
  rw [toDays_eq, isMarch, isDay, counted]

theorem marchYear_eq (valid : date.isValid = true) :
    date.year = date.marchYear + (if 306 ≤ date.dayFromMarch then 1 else 0) := by
  obtain ⟨⟨lower, upper⟩, first, last⟩ := bounds_of_isValid valid
  have long := last.trans (daysInMonth_le _ _)
  obtain ⟨year, month, day⟩ := date
  simp only [dayFromMarch, marchYear] at *
  by_cases short : month ∈ [4, 6, 9, 11]
  · rw [daysInMonth_short short] at last
    interval_cases month <;> simp at short ⊢ <;> omega
  · interval_cases month <;> simp at short ⊢ <;> omega

/-- No day from a date on is of an earlier year. -/
theorem le_year_ofDays (valid : date.isValid = true) {days : Int} (le : date.toDays ≤ days) :
    date.year ≤ (ofDays days).year := by
  obtain ⟨march, day, day_bounds, counted, isYear, _⟩ := exists_march_ofDays days
  obtain ⟨first, _, _⟩ := dayFromMarch_bounds valid
  rw [toDays_eq, counted] at le
  rw [isYear, marchYear_eq valid]
  -- in the same year from March on, both are on the same side of January or in order
  rcases Int.lt_trichotomy date.marchYear march with before | same | behind
  · split <;> split <;> omega
  · rw [same] at le ⊢
    split <;> split <;> omega
  · have := daysToMarch_le (Int.le_of_lt behind)
    split <;> split <;> omega

end Date

end LogQuery.Time
