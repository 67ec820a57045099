-- SUMMARY: Timestamps show an instant to the second, and up to the year 9999 they are in its order.
import FirmwareGen.Proofs.Calendar.Days
import FirmwareGen.Proofs.Text.Width
import Mathlib.Data.List.Lex
/-!
# Timestamps of instants

A timestamp determines the fields that it shows, and no others. From the year 0 to the year 9999 all
timestamps are of one length, and their order as texts is the order of the instants, as far as the
fields that are shown tell them apart.
-/

namespace FirmwareGen

open Text

namespace DateTime

/-! ## Years -/

/-- The years that are shown with four digits and no sign. -/
def HasPlainYear (t : DateTime) : Prop := 0 ≤ t.year ∧ t.year ≤ 9999

theorem readInt?_yearText (year : Int) : readInt? (yearText year) = some year := by
  rw [readInt?_eq_some_iff, yearText]
  split
  · next hplain =>
    have hdecimal : IsDecimal (lastDigits 10 4 year.toNat) :=
      ⟨by simp [lastDigits], isDigit_of_mem_lastDigits⟩
    have hwrites := WritesInt.plain hdecimal
    have hdigits : year.toNat < 10000 := by omega
    rwa [ofDigitChars_lastDigits, Nat.mod_eq_of_lt hdigits, Int.toNat_of_nonneg hplain.1] at hwrites
  · next hsigned =>
    have hdecimal := isDecimal_padded (by decide : 4 ≠ 0) year.natAbs
    split
    · next hneg =>
      have hwrites := WritesInt.minus hdecimal
      rwa [ofDigitChars_padded, Int.ofNat_natAbs_of_nonpos (Int.le_of_lt hneg), Int.neg_neg] at hwrites
    · next hpos =>
      have hwrites := WritesInt.plus hdecimal
      rwa [ofDigitChars_padded, Int.natAbs_of_nonneg (by omega)] at hwrites

theorem yearText_inj {year year' : Int} : yearText year = yearText year' ↔ year = year' := by
  constructor
  · intro heq
    rw [← Option.some_inj, ← readInt?_yearText, heq, readInt?_yearText]
  · rintro rfl
    rfl

theorem yearText_of_hasPlainYear {t : DateTime} (h : t.HasPlainYear) :
    yearText t.year = lastDigits 10 4 t.year.toNat := if_pos h

/-! ## Fields -/

/-- The instants with fields in their ranges. The year may be any, and a leap second may follow any
    second. -/
structure InRange (t : DateTime) : Prop where
  date : IsDate t.year t.month t.day
  hour : t.hour ≤ 23
  minute : t.minute ≤ 59
  second : t.second ≤ 59
  nanosecond : t.nanosecond < 2000000000

theorem Valid.inRange {t : DateTime} (h : t.Valid) : t.InRange := by
  obtain ⟨-, -, hmonth, hmonth', hday, hday', hhour, hminute, hsecond, hnanosecond, -⟩ := h
  exact ⟨⟨hmonth, hmonth', hday, hday'⟩, hhour, hminute, hsecond, hnanosecond⟩

/-- The calendar has leap seconds at the end of a minute only. -/
theorem Valid.shownSecond_eq {t : DateTime} (h : t.Valid) (hleap : t.isLeapSecond = true) :
    t.shownSecond = 60 := by
  obtain ⟨-, -, -, -, -, -, -, -, -, -, hsecond⟩ := h
  rw [shownSecond, if_pos hleap, hsecond (of_decide_eq_true hleap)]

/-- The marks between the fields behind the year. -/
def clockMarks : List Char := ['-', '-', ' ', ':', ':']

/-- The fields behind the year, as they are shown. -/
def clockFields (t : DateTime) : List Nat := [t.month, t.day, t.hour, t.minute, t.shownSecond]

theorem shownSecond_le {t : DateTime} (h : t.InRange) : t.shownSecond ≤ 60 := by
  have hsecond := h.second
  rw [shownSecond]
  split <;> omega

theorem daysInMonth_le (year : Int) (month : Nat) : daysInMonth year month ≤ 31 := by
  rw [daysInMonth]
  split_ifs <;> decide

theorem InRange.fit {t : DateTime} (h : t.InRange) : Fit clockMarks t.clockFields := by
  have hdays := daysInMonth_le t.year t.month
  have hshown := shownSecond_le h
  obtain ⟨⟨-, hmonth, -, hday⟩, hhour, hminute, -, -⟩ := h
  exact .cons (by omega) <| .cons (by omega) <| .cons (by omega) <| .cons (by omega) <|
    .cons (by omega) .nil

theorem toList_timestamp (t : DateTime) :
    t.timestamp.toList = yearText t.year ++ fieldsText clockMarks t.clockFields := by
  rw [timestamp, String.toList_ofList]
  simp [timestampChars, fieldsText, clockMarks, clockFields]

/-- Two instants that agree in all that is shown. -/
structure ShownAlike (t u : DateTime) : Prop where
  year : t.year = u.year
  month : t.month = u.month
  day : t.day = u.day
  hour : t.hour = u.hour
  minute : t.minute = u.minute
  second : t.shownSecond = u.shownSecond

theorem shownAlike_iff {t u : DateTime} :
    t.ShownAlike u ↔ t.year = u.year ∧ t.clockFields = u.clockFields := by
  constructor
  · rintro ⟨hyear, hmonth, hday, hhour, hminute, hsecond⟩
    rw [clockFields, clockFields, hmonth, hday, hhour, hminute, hsecond]
    exact ⟨hyear, rfl⟩
  · rintro ⟨hyear, hfields⟩
    simp only [clockFields, List.cons.injEq, and_true] at hfields
    obtain ⟨hmonth, hday, hhour, hminute, hsecond⟩ := hfields
    exact ⟨hyear, hmonth, hday, hhour, hminute, hsecond⟩

theorem timestamp_eq_iff {t u : DateTime} (ht : t.InRange) (hu : u.InRange) :
    t.timestamp = u.timestamp ↔ t.ShownAlike u := by
  rw [← String.toList_inj, toList_timestamp, toList_timestamp, shownAlike_iff]
  constructor
  · intro heq
    obtain ⟨hyear, hfields⟩ := List.append_inj' heq
      (by rw [ht.fit.length_fieldsText, hu.fit.length_fieldsText])
    exact ⟨yearText_inj.1 hyear, (ht.fit.fieldsText_inj hu.fit).1 hfields⟩
  · rintro ⟨hyear, hfields⟩
    rw [hyear, hfields]

theorem length_timestamp {t : DateTime} (h : t.InRange) (hyear : t.HasPlainYear) :
    t.timestamp.length = 19 := by
  rw [← String.length_toList, toList_timestamp, yearText_of_hasPlainYear hyear, List.length_append,
    length_lastDigits, h.fit.length_fieldsText]
  rfl

/-! ## Order -/

/-- The number of the second that an instant is written into, in ordinary days. -/
def secondNumber (t : DateTime) : Int :=
  dayNumber t.year t.month t.day * 86400 + (t.hour * 3600 + t.minute * 60 + t.second)

/-- The order of instants. A leap second comes between the second it is written into and the next. -/
def Precedes (t u : DateTime) : Prop :=
  t.secondNumber < u.secondNumber ∨ t.secondNumber = u.secondNumber ∧ t.nanosecond < u.nanosecond

theorem Precedes.asymm {t u : DateTime} (h : t.Precedes u) : ¬ u.Precedes t := by
  unfold Precedes at h ⊢
  omega

theorem precedes_of_dayNumber_lt {t u : DateTime} (ht : t.InRange)
    (h : dayNumber t.year t.month t.day < dayNumber u.year u.month u.day) : t.Precedes u := by
  obtain ⟨-, hhour, hminute, hsecond, -⟩ := ht
  left
  simp only [secondNumber]
  omega

/-- The first field that differs is the lesser one of the first instant. -/
def ShownBefore (t u : DateTime) : Prop :=
  t.year < u.year ∨ t.year = u.year ∧ t.clockFields < u.clockFields

theorem ShownBefore.not_shownAlike {t u : DateTime} (h : t.ShownBefore u) : ¬ t.ShownAlike u := by
  rw [shownAlike_iff]
  rintro ⟨hyear, hfields⟩
  rw [ShownBefore, hyear, hfields] at h
  exact h.elim (lt_irrefl _) fun hlt => List.lt_irrefl _ hlt.2

theorem shownBefore_trichotomy (t u : DateTime) :
    t.ShownBefore u ∨ t.ShownAlike u ∨ u.ShownBefore t := by
  rw [shownAlike_iff]
  rcases lt_trichotomy t.year u.year with hyear | hyear | hyear
  · exact .inl (.inl hyear)
  · rcases lt_trichotomy t.clockFields u.clockFields with hfields | hfields | hfields
    · exact .inl (.inr ⟨hyear, hfields⟩)
    · exact .inr (.inl ⟨hyear, hfields⟩)
    · exact .inr (.inr (.inr ⟨hyear.symm, hfields⟩))
  · exact .inr (.inr (.inl hyear))

theorem ShownBefore.precedes {t u : DateTime} (h : t.ShownBefore u) (ht : t.InRange)
    (hu : u.InRange) : t.Precedes u := by
  have hdays : monthNumber t.year t.month < monthNumber u.year u.month → t.Precedes u :=
    fun hlt => precedes_of_dayNumber_lt ht (dayNumber_lt_of_monthNumber_lt ht.date hu.date hlt)
  obtain ⟨⟨hmonth, hmonth', -, -⟩, -, hminute, hsecond, -⟩ := id ht
  obtain ⟨⟨humonth, humonth', -, -⟩, -, huminute, husecond, -⟩ := id hu
  simp only [ShownBefore, clockFields, List.cons_lt_cons_iff, List.lt_irrefl, and_false,
    or_false] at h
  rcases h with hlt | ⟨hyear, hlt | ⟨hsame, hlt | ⟨hday, hclock⟩⟩⟩
  · exact hdays (by simp only [monthNumber]; omega)
  · exact hdays (by simp only [monthNumber]; omega)
  · refine precedes_of_dayNumber_lt ht ?_
    rw [hyear, hsame]
    exact dayNumber_lt_of_day_lt _ _ hlt
  · -- on one day the clock decides, and between equal seconds the leap second comes later
    simp only [Precedes, secondNumber, hyear, hsame, hday]
    simp only [shownSecond, isLeapSecond, decide_eq_true_eq] at hclock
    split_ifs at hclock <;> omega

theorem timestamp_lt_iff {t u : DateTime} (ht : t.InRange) (hu : u.InRange) (htyear : t.HasPlainYear)
    (huyear : u.HasPlainYear) : t.timestamp < u.timestamp ↔ t.ShownBefore u := by
  obtain ⟨hlow, hhigh⟩ := id htyear
  obtain ⟨hlow', hhigh'⟩ := id huyear
  have hdigits : t.year.toNat < 10000 := by omega
  have hdigits' : u.year.toNat < 10000 := by omega
  have hlt : t.year.toNat < u.year.toNat ↔ t.year < u.year := by omega
  have heq : t.year.toNat = u.year.toNat ↔ t.year = u.year := by omega
  rw [String.lt_iff, toList_timestamp, toList_timestamp, yearText_of_hasPlainYear htyear,
    yearText_of_hasPlainYear huyear, append_lt_append_iff (by simp),
    lastDigits_lt_iff hdigits hdigits', lastDigits_inj hdigits hdigits',
    ht.fit.fieldsText_lt_iff hu.fit, hlt, heq, ShownBefore]

/-- Timestamps are equal just for instants that agree in the year, the month, the day, the hour, the
    minute and the second as it is shown, which is 60 for the leap seconds of the calendar. From the
    year 0 to the year 9999 they have 19 characters, and one comes before another as a text just if its
    instant comes before the other and is not shown alike. -/
theorem timestamp_faithful {t u : DateTime} (ht : t.InRange) (hu : u.InRange) :
    (t.timestamp = u.timestamp ↔ t.ShownAlike u) ∧
      (t.Valid → t.isLeapSecond = true → t.shownSecond = 60) ∧
      (t.HasPlainYear → t.timestamp.length = 19) ∧
      (t.HasPlainYear → u.HasPlainYear →
        (t.timestamp < u.timestamp ↔ t.Precedes u ∧ ¬ t.ShownAlike u)) := by
  refine ⟨timestamp_eq_iff ht hu, Valid.shownSecond_eq, length_timestamp ht, fun htyear huyear => ?_⟩
  rw [timestamp_lt_iff ht hu htyear huyear]
  constructor
  · exact fun hbefore => ⟨hbefore.precedes ht hu, hbefore.not_shownAlike⟩
  · rintro ⟨hprecedes, hother⟩
    rcases shownBefore_trichotomy t u with hbefore | halike | hafter
    · exact hbefore
    · exact absurd halike hother
    · exact absurd (hafter.precedes hu ht) hprecedes.asymm

/-- An instant within the leap second at the end of a year. -/
def yearEnd : DateTime := ⟨2016, 12, 31, 23, 59, 59, 1500000000⟩

/-- The instant at which the next year begins. -/
def newYear : DateTime := ⟨2017, 1, 1, 0, 0, 0, 0⟩

theorem timestamp_faithful_yearEnd :
    yearEnd.InRange ∧ newYear.InRange ∧
      (yearEnd.timestamp = newYear.timestamp ↔ yearEnd.ShownAlike newYear) ∧
      yearEnd.shownSecond = 60 ∧ yearEnd.timestamp.length = 19 ∧
      yearEnd.timestamp < newYear.timestamp := by
  have hend : yearEnd.Valid := by decide
  have hnew : newYear.Valid := by decide
  obtain ⟨hequal, hleap, hlength, horder⟩ := timestamp_faithful hend.inRange hnew.inRange
  have hplain : yearEnd.HasPlainYear ∧ newYear.HasPlainYear := by
    exact ⟨⟨by decide, by decide⟩, by decide, by decide⟩
  have hprecedes : yearEnd.Precedes newYear := .inl (by decide)
  have hother : ¬ yearEnd.ShownAlike newYear := fun halike => absurd halike.year (by decide)
  exact ⟨hend.inRange, hnew.inRange, hequal, hleap hend (by decide), hlength hplain.1,
    (horder hplain.1 hplain.2).2 ⟨hprecedes, hother⟩⟩

end DateTime

end FirmwareGen
