-- SUMMARY: Instants of the Gregorian calendar, their timestamps and the numbers of their days.
import FirmwareGen.Text.Numeral
/-!
# Dates and times

Instants of the proleptic Gregorian calendar without a time zone. A leap second is written into the
nanoseconds: second 59 with a thousand million of them or more. A timestamp shows an instant to the
second, a leap second as second 60.
-/

namespace FirmwareGen

structure DateTime where
  year : Int
  month : Nat
  day : Nat
  hour : Nat
  minute : Nat
  second : Nat
  nanosecond : Nat := 0
  deriving DecidableEq, Repr

namespace DateTime

/-! ## The calendar -/

def isLeapYear (year : Int) : Bool := year % 4 = 0 && (year % 100 != 0 || year % 400 = 0)

def daysInMonth (year : Int) (month : Nat) : Nat :=
  if month = 2 then if isLeapYear year then 29 else 28
  else if month = 4 ∨ month = 6 ∨ month = 9 ∨ month = 11 then 30
  else 31

/-- The instants that the calendar has. -/
def Valid (t : DateTime) : Prop :=
  -262143 ≤ t.year ∧ t.year ≤ 262142 ∧ 1 ≤ t.month ∧ t.month ≤ 12 ∧
  1 ≤ t.day ∧ t.day ≤ daysInMonth t.year t.month ∧ t.hour ≤ 23 ∧ t.minute ≤ 59 ∧ t.second ≤ 59 ∧
  t.nanosecond < 2000000000 ∧ (1000000000 ≤ t.nanosecond → t.second = 59)

instance : DecidablePred Valid := fun t => by unfold Valid; infer_instance

/-- Whether an instant lies within a leap second. -/
def isLeapSecond (t : DateTime) : Bool := 1000000000 ≤ t.nanosecond

/-- The second as it is shown. -/
def shownSecond (t : DateTime) : Nat := if t.isLeapSecond then t.second + 1 else t.second

/-! ## Timestamps -/

/-- A year: four digits from 0 to 9999, otherwise a sign and at least four digits. -/
def yearText (year : Int) : List Char :=
  if 0 ≤ year ∧ year ≤ 9999 then Text.lastDigits 10 4 year.toNat
  else (if year < 0 then '-' else '+') :: Text.padded 4 year.natAbs

def timestampChars (t : DateTime) : List Char :=
  yearText t.year ++ '-' :: Text.lastDigits 10 2 t.month ++ '-' :: Text.lastDigits 10 2 t.day ++
    ' ' :: Text.lastDigits 10 2 t.hour ++ ':' :: Text.lastDigits 10 2 t.minute ++
    ':' :: Text.lastDigits 10 2 t.shownSecond

def timestamp (t : DateTime) : String := String.ofList t.timestampChars

/-! ## Days -/

/-- The number of a day, counted from the first of March of the year 0. -/
def dayNumber (year : Int) (month day : Nat) : Int :=
  let year := if month ≤ 2 then year - 1 else year
  let monthFromMarch : Int := if month ≤ 2 then month + 9 else month - 3
  year * 365 + year / 4 - year / 100 + year / 400 + (153 * monthFromMarch + 2) / 5 + day - 1

end DateTime

end FirmwareGen
