-- SUMMARY: The days of the calendar are numbered in their order.
import FirmwareGen.Calendar.DateTime
import Mathlib.Order.Monotone.Basic
import Mathlib.Tactic.IntervalCases
/-!
# Days in a row

Months are numbered through all years. The day number of the first of a month is that of the month
before and as many days as that month has, so later dates have greater day numbers.
-/

namespace FirmwareGen.DateTime

/-! ## Years -/

/-- The number of the first of March of a year. -/
def marchStart (year : Int) : Int := year * 365 + year / 4 - year / 100 + year / 400

/-- A leap year has one day more than the others. -/
theorem marchStart_eq (year : Int) :
    marchStart year = marchStart (year - 1) + 365 + if isLeapYear year then 1 else 0 := by
  simp only [marchStart, isLeapYear, Bool.and_eq_true, Bool.or_eq_true, decide_eq_true_eq, bne_iff_ne]
  split <;> omega

/-- January and February are counted with the year before. -/
theorem dayNumber_early (year : Int) {month : Nat} (h : month ≤ 2) (day : Nat) :
    dayNumber year month day =
      marchStart (year - 1) + (153 * ((month : Int) + 9) + 2) / 5 + day - 1 := by
  simp only [dayNumber, marchStart, if_pos h]

theorem dayNumber_late (year : Int) {month : Nat} (h : 2 < month) (day : Nat) :
    dayNumber year month day = marchStart year + (153 * ((month : Int) - 3) + 2) / 5 + day - 1 := by
  simp only [dayNumber, marchStart, if_neg (Nat.not_le.2 h)]

/-! ## Months -/

theorem dayNumber_month_succ (year : Int) {month : Nat} (hfirst : 1 ≤ month) (hlast : month < 12) :
    dayNumber year (month + 1) 1 = dayNumber year month 1 + daysInMonth year month := by
  rcases Nat.lt_trichotomy month 2 with hjanuary | rfl | hlate
  · obtain rfl : month = 1 := by omega
    have hdays : daysInMonth year 1 = 31 := rfl
    rw [dayNumber_early year (by decide), dayNumber_early year (by decide), hdays]
    omega
  · -- the day that a leap year has more is the last of February
    rw [dayNumber_late year (by decide), dayNumber_early year (by decide), marchStart_eq]
    simp only [daysInMonth]
    split_ifs <;> omega
  · rw [dayNumber_late year (by omega), dayNumber_late year hlate]
    simp only [daysInMonth]
    interval_cases month <;> split_ifs <;> omega

theorem dayNumber_year_succ (year : Int) :
    dayNumber (year + 1) 1 1 = dayNumber year 12 1 + daysInMonth year 12 := by
  have hdays : daysInMonth year 12 = 31 := rfl
  rw [dayNumber_early _ (by decide), dayNumber_late _ (by decide), Int.add_sub_cancel, hdays]
  omega

/-- The day number of the first of a month; months are counted from January of the year 0. -/
def monthStart (month : Int) : Int := dayNumber (month / 12) ((month % 12).toNat + 1) 1

/-- The number of a month. -/
def monthNumber (year : Int) (month : Nat) : Int := 12 * year + (month - 1)

theorem dayNumber_eq (year : Int) {month : Nat} (hfirst : 1 ≤ month) (hlast : month ≤ 12) (day : Nat) :
    dayNumber year month day = monthStart (monthNumber year month) + (day - 1) := by
  have hyear : monthNumber year month / 12 = year := by rw [monthNumber]; omega
  have hmonth : (monthNumber year month % 12).toNat + 1 = month := by rw [monthNumber]; omega
  rw [monthStart, hyear, hmonth]
  simp only [dayNumber]
  omega

theorem monthStart_succ {year : Int} {month : Nat} (hfirst : 1 ≤ month) (hlast : month ≤ 12) :
    monthStart (monthNumber year month + 1) =
      monthStart (monthNumber year month) + daysInMonth year month := by
  have hstart := dayNumber_eq year hfirst hlast 1
  rcases Nat.lt_or_eq_of_le hlast with hmonth | rfl
  · have hnext := dayNumber_eq year (Nat.succ_le_succ (Nat.zero_le month)) hmonth 1
    have hnumber : monthNumber year (month + 1) = monthNumber year month + 1 := by
      simp only [monthNumber]
      omega
    rw [dayNumber_month_succ year hfirst hmonth, hnumber] at hnext
    omega
  · have hnext := dayNumber_eq (year + 1) (Nat.le_refl 1) (by decide) 1
    have hnumber : monthNumber (year + 1) 1 = monthNumber year 12 + 1 := by
      simp only [monthNumber]
      omega
    rw [dayNumber_year_succ, hnumber] at hnext
    omega

/-- Later months start later. -/
theorem monthStart_lt {month month' : Int} (h : month < month') :
    monthStart month < monthStart month' := by
  refine strictMono_int_of_lt_succ (fun month => ?_) h
  obtain ⟨year, rest, hfirst, hlast, rfl⟩ :
      ∃ (year : Int) (rest : Nat), 1 ≤ rest ∧ rest ≤ 12 ∧ month = monthNumber year rest :=
    ⟨month / 12, (month % 12).toNat + 1, by omega, by omega, by rw [monthNumber]; omega⟩
  have hdays : 0 < daysInMonth year rest := by
    unfold daysInMonth
    split_ifs <;> decide
  rw [monthStart_succ hfirst hlast]
  omega

/-! ## Days -/

/-- The dates that the calendar has, in any year. -/
structure IsDate (year : Int) (month day : Nat) : Prop where
  month_pos : 1 ≤ month
  month_le : month ≤ 12
  day_pos : 1 ≤ day
  day_le : day ≤ daysInMonth year month

/-- Of two dates, the one in a later month has the greater day number. -/
theorem dayNumber_lt_of_monthNumber_lt {year year' : Int} {month month' day day' : Nat}
    (h : IsDate year month day) (h' : IsDate year' month' day')
    (hlt : monthNumber year month < monthNumber year' month') :
    dayNumber year month day < dayNumber year' month' day' := by
  have hstart : monthStart (monthNumber year month + 1) ≤ monthStart (monthNumber year' month') := by
    rcases Int.lt_or_eq_of_le (Int.add_one_le_of_lt hlt) with hlater | hnext
    · exact Int.le_of_lt (monthStart_lt hlater)
    · rw [hnext]
  rw [monthStart_succ h.month_pos h.month_le] at hstart
  have hfirst := h'.day_pos
  have hlast := h.day_le
  rw [dayNumber_eq year h.month_pos h.month_le, dayNumber_eq year' h'.month_pos h'.month_le]
  omega

theorem dayNumber_lt_of_day_lt (year : Int) (month : Nat) {day day' : Nat} (hlt : day < day') :
    dayNumber year month day < dayNumber year month day' := by
  simp only [dayNumber]
  omega

end FirmwareGen.DateTime
