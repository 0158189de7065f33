import Mathlib.Tactic.IntervalCases
import SessionBroker.Time.Calendar

/-!
# Days and dates

Every day has one date: `ofDays` gives a date that exists (`valid_ofDays`), and `toDays` finds the day again
(`toDays_ofDays`). An era of 400 years has four centuries, a century twenty-five spans of four years, and what is
left of days over in a span, a century or an era falls to its last year. `EraDay` is that decomposition; on it the
divisions by which `ofDays` finds the year are plain arithmetic.
-/

namespace SessionBroker.CivilDate

/-- The place of a day in an era: the century, the span of four years in it, the year of the span and the day of the
year, all counted from zero. Only the last year of a span has a day 365, and not in the last span of a century,
except in the last century. -/
structure EraDay (dayOfEra century span year day : Int) : Prop where
  dayOfEra_eq : dayOfEra = 36524 * century + 1461 * span + 365 * year + day
  century_range : 0 ≤ century ∧ century ≤ 3
  span_range : 0 ≤ span ∧ span ≤ 24
  year_range : 0 ≤ year ∧ year ≤ 3
  day_range : 0 ≤ day ∧ day ≤ 365
  leap : day = 365 → year = 3 ∧ (span = 24 → century = 3)

theorem exists_eraDay {dayOfEra : Int} (h : 0 ≤ dayOfEra) (h' : dayOfEra < 146097) :
    ∃ century span year day, EraDay dayOfEra century span year day := by
  obtain ⟨century, hcentury⟩ : ∃ century, century = min (dayOfEra / 36524) 3 := ⟨_, rfl⟩
  obtain ⟨rest, hrest⟩ : ∃ rest, rest = dayOfEra - 36524 * century := ⟨_, rfl⟩
  obtain ⟨span, hspan⟩ : ∃ span, span = rest / 1461 := ⟨_, rfl⟩
  obtain ⟨day, hday⟩ : ∃ day, day = rest - 1461 * span := ⟨_, rfl⟩
  obtain ⟨year, hyear⟩ : ∃ year, year = min (day / 365) 3 := ⟨_, rfl⟩
  exact ⟨century, span, year, day - 365 * year,
    by omega, by omega, by omega, by omega, by omega, fun hlast => ⟨by omega, by omega⟩⟩

namespace EraDay

variable {dayOfEra century span year day : Int}

/-- The correction of a day of the era by its leap days, which makes all years 365 days long. -/
theorem yearOfEra_eq (h : EraDay dayOfEra century span year day) :
    (dayOfEra - dayOfEra / 1460 + dayOfEra / 36524 - dayOfEra / 146096) / 365 =
      100 * century + 4 * span + year := by
  obtain ⟨heq, hcentury, hspan, hyear, hday, hleap⟩ := h
  have hcenturies : dayOfEra / 36524 - dayOfEra / 146096 = century := by
    obtain hinside | ⟨rfl, hlast⟩ : 1461 * span + 365 * year + day < 36524 ∨
        century = 3 ∧ 1461 * span + 365 * year + day = 36524 := by omega
    · have hfirst : dayOfEra / 36524 = century := by omega
      have hsecond : dayOfEra / 146096 = 0 := by omega
      omega
    · omega
  -- The quotient by 1460 counts the spans, and one more where the leap days before fill the rest of the last one.
  have hspans : dayOfEra / 1460 = 25 * century + span ∨
      dayOfEra / 1460 = 25 * century + span + 1 ∧ 0 < day ∧ 1460 ≤ 24 * century + span + 365 * year + day := by omega
  have hday' : day = 365 → dayOfEra / 1460 = 25 * century + span + 1 := by omega
  omega

theorem dayOfYear_eq (h : EraDay dayOfEra century span year day) {yearOfEra : Int}
    (hyear : yearOfEra = 100 * century + 4 * span + year) :
    dayOfEra - (365 * yearOfEra + yearOfEra / 4 - yearOfEra / 100) = day := by
  obtain ⟨rfl, hcentury, hspan, hyear', hday, hleap⟩ := h
  omega

end EraDay

/-- A date by its era, the year of the era and the day of the year, which both start in March. -/
def ofEra (era yearOfEra dayOfYear : Int) : CivilDate :=
  let shifted := (5 * dayOfYear + 2) / 153
  let month := if shifted < 10 then shifted + 3 else shifted - 9
  let year := yearOfEra + era * 400
  ⟨if month ≤ 2 then year + 1 else year, month.toNat, (dayOfYear - (153 * shifted + 2) / 5 + 1).toNat⟩

/-- Every day is some day of a year of an era. -/
theorem exists_ofEra (days : Int) : ∃ era century span year day,
    EraDay (days + 719468 - era * 146097) century span year day ∧
    ofDays days = ofEra era (100 * century + 4 * span + year) day := by
  have hfirst : 0 ≤ days + 719468 - (days + 719468) / 146097 * 146097 := by omega
  obtain ⟨century, span, year, day, h⟩ := exists_eraDay hfirst (by omega)
  refine ⟨(days + 719468) / 146097, century, span, year, day, h, ?_⟩
  unfold ofDays ofEra
  simp only [h.yearOfEra_eq, h.dayOfYear_eq rfl]

/-- The months of a year that starts in March: month `shifted` begins at day `(153 * shifted + 2) / 5`, and January
and February, the last two, belong to the next civil year. -/
theorem ofEra_eq (era yearOfEra : Int) {dayOfYear : Int} (h : 0 ≤ dayOfYear) (h' : dayOfYear ≤ 365) :
    ∃ shifted place : Nat, dayOfYear = (153 * (shifted : Int) + 2) / 5 + place ∧
      dayOfYear < (153 * ((shifted : Int) + 1) + 2) / 5 ∧
      (shifted < 10 ∧ ofEra era yearOfEra dayOfYear = ⟨yearOfEra + era * 400, shifted + 3, place + 1⟩ ∨
        10 ≤ shifted ∧ shifted ≤ 11 ∧
          ofEra era yearOfEra dayOfYear = ⟨yearOfEra + era * 400 + 1, shifted - 9, place + 1⟩) := by
  obtain ⟨shifted, hshifted⟩ := Int.eq_ofNat_of_zero_le (show 0 ≤ (5 * dayOfYear + 2) / 153 by omega)
  obtain ⟨place, hplace⟩ :=
    Int.eq_ofNat_of_zero_le (show 0 ≤ dayOfYear - (153 * (shifted : Int) + 2) / 5 by omega)
  refine ⟨shifted, place, by omega, by omega, ?_⟩
  unfold ofEra
  simp only [hshifted, hplace]
  by_cases hspring : (shifted : Int) < 10
  · have hlate : ¬(shifted : Int) + 3 ≤ 2 := by omega
    simp only [if_pos hspring, if_neg hlate]
    exact .inl ⟨by omega, rfl⟩
  · have hearly : (shifted : Int) - 9 ≤ 2 := by omega
    have hmonth : ((shifted : Int) - 9).toNat = shifted - 9 := by omega
    simp only [if_neg hspring, if_pos hearly, hmonth]
    exact .inr ⟨by omega, by omega, rfl⟩

theorem toDays_ofEra {era yearOfEra dayOfYear : Int} (hyear : 0 ≤ yearOfEra ∧ yearOfEra < 400)
    (hday : 0 ≤ dayOfYear ∧ dayOfYear ≤ 365) :
    (ofEra era yearOfEra dayOfYear).toDays =
      era * 146097 + (yearOfEra * 365 + yearOfEra / 4 - yearOfEra / 100 + dayOfYear) - 719468 := by
  have hera : (yearOfEra + era * 400) / 400 = era := by omega
  obtain ⟨shifted, place, rfl, -, ⟨hspring, hdate⟩ | ⟨hwinter, -, hdate⟩⟩ := ofEra_eq era yearOfEra hday.1 hday.2
  · have hlate : ¬shifted + 3 ≤ 2 := by omega
    rw [hdate, toDays]
    simp only [if_neg hlate, if_pos (Nat.lt_of_not_le hlate), hera]
    omega
  · have hearly : shifted - 9 ≤ 2 := by omega
    rw [hdate, toDays]
    simp only [if_pos hearly, if_neg (Nat.not_lt.mpr hearly), Int.add_sub_cancel, hera]
    omega

theorem toDays_ofDays (days : Int) : (ofDays days).toDays = days := by
  obtain ⟨era, century, span, year, day, h, hdate⟩ := exists_ofEra days
  obtain ⟨heq, hcentury, hspan, hyear, hday, -⟩ := h
  rw [hdate, toDays_ofEra ⟨by omega, by omega⟩ hday]
  omega

/-- Years have 146097 / 400 days in the mean, and no day is far from where its year would then begin or end. -/
theorem year_ofDays_bounds (days : Int) :
    146097 * ((ofDays days).year - 1) ≤ 400 * (days + 719468) + 591 ∧
      400 * (days + 719468) ≤ 146097 * (ofDays days).year + 146288 := by
  obtain ⟨era, century, span, year, day, h, hdate⟩ := exists_ofEra days
  obtain ⟨heq, hcentury, hspan, hyear, hday, -⟩ := h
  obtain ⟨shifted, place, -, -, ⟨-, hdate'⟩ | ⟨-, -, hdate'⟩⟩ :=
    ofEra_eq era (100 * century + 4 * span + year) hday.1 hday.2
  all_goals
    rw [hdate, hdate']
    dsimp only
    omega

theorem daysInMonth_le (year : Int) (month : Nat) : daysInMonth year month ≤ 31 := by
  unfold daysInMonth
  split
  · split <;> decide
  · split <;> decide

theorem isLeap_iff (year : Int) : isLeap year = true ↔ year % 4 = 0 ∧ (year % 100 ≠ 0 ∨ year % 400 = 0) := by
  simp [isLeap]

theorem valid_iff (year : Int) (month day : Nat) : valid ⟨year, month, day⟩ = true ↔
    1 ≤ month ∧ month ≤ 12 ∧ 1 ≤ day ∧ day ≤ daysInMonth year month := by
  simp [valid, and_assoc]

theorem valid_ofDays (days : Int) : (ofDays days).valid = true := by
  obtain ⟨era, century, span, year, day, h, hdate⟩ := exists_ofEra days
  obtain ⟨-, hcentury, hspan, hyear, hday, hleap⟩ := h
  obtain ⟨shifted, place, rfl, hplace, ⟨hspring, hdate'⟩ | ⟨hwinter, hlast, hdate'⟩⟩ :=
    ofEra_eq era (100 * century + 4 * span + year) hday.1 hday.2
  · rw [hdate, hdate', valid_iff]
    refine ⟨by omega, by omega, by omega, ?_⟩
    interval_cases shifted <;> simp [daysInMonth] <;> omega
  · rw [hdate, hdate', valid_iff]
    refine ⟨by omega, by omega, by omega, ?_⟩
    interval_cases shifted
    · simp [daysInMonth]
      omega
    · -- The last day of February is there only in the last year of a span, and then the civil year is leap.
      by_cases hshort : place ≤ 27
      · simp only [daysInMonth]
        split <;> split <;> omega
      · obtain ⟨hfourth, hcentury'⟩ := hleap (by omega)
        have hlong : isLeap (100 * century + 4 * span + year + era * 400 + 1) = true :=
          (isLeap_iff _).mpr (by omega)
        simp [daysInMonth, hlong]
        omega

end SessionBroker.CivilDate
