/-!
# Calendar dates

Dates of the Gregorian calendar from 1 January of year 1 to 31 December of year 9999, numbered
from 1 on in the order of days.

Main definitions:

- `daysInMonth`: the length of a month.
- `firstDayNumber`: the number of the first day of a month.
- `Date`: a date of the calendar, and `Date.dayNumber`, its number.

Main results:

- Theorem `daysBeforeMonth_thirteen`: the twelve months of a year have 365 days, or 366.
- Theorem `daysBeforeYear_succ`: a year is as long as its twelve months.
-/

namespace FundsTransfer.Calendar

/-- Every fourth year has a leap day; of the full centuries only every fourth has one. -/
def isLeapYear (year : Nat) : Bool :=
  year % 4 == 0 && (year % 100 != 0 || year % 400 == 0)

/-- The number of days of a month. -/
def daysInMonth (year month : Nat) : Nat :=
  match month with
  | 2 => if isLeapYear year then 29 else 28
  | 4 => 30
  | 6 => 30
  | 9 => 30
  | 11 => 30
  | _ => 31

/-- The number of days of the years before a year, from year 1 on. -/
def daysBeforeYear (year : Nat) : Nat :=
  365 * (year - 1) + (year - 1) / 4 - (year - 1) / 100 + (year - 1) / 400

/-- The number of days of the months before a month of a year. -/
def daysBeforeMonth (year : Nat) : Nat → Nat
  | 0 => 0
  | 1 => 0
  | month + 2 => daysBeforeMonth year (month + 1) + daysInMonth year (month + 1)

/-- The number of the day that lies `day` days after the last day before a month.  For a day of the
month this is the number of that day; later days roll over into the months that follow. -/
def dayNumber (year month day : Nat) : Nat :=
  daysBeforeYear year + daysBeforeMonth year month + day

/-- The number of 31 December 9999, the last day of the calendar. -/
def lastDayNumber : Nat := 3652059

/-- A date of the calendar. -/
structure Date where
  year : Nat
  month : Nat
  day : Nat
  one_le_year : 1 ≤ year
  year_le : year ≤ 9999
  one_le_month : 1 ≤ month
  month_le : month ≤ 12
  one_le_day : 1 ≤ day
  day_le : day ≤ daysInMonth year month
deriving DecidableEq, Repr

/-- The number of a date in the order of days. -/
def Date.dayNumber (date : Date) : Nat :=
  Calendar.dayNumber date.year date.month date.day

/-- The date with the given year, month and day, if the calendar has it. -/
def Date.of? (year month day : Nat) : Option Date :=
  if h : 1 ≤ year ∧ year ≤ 9999 ∧ 1 ≤ month ∧ month ≤ 12 ∧ 1 ≤ day ∧ day ≤ daysInMonth year month
  then some ⟨year, month, day, h.1, h.2.1, h.2.2.1, h.2.2.2.1, h.2.2.2.2.1, h.2.2.2.2.2⟩
  else none

/-- A year is as long as its twelve months. -/
theorem daysBeforeMonth_thirteen (year : Nat) :
    daysBeforeMonth year 13 = if isLeapYear year then 366 else 365 := by
  cases h : isLeapYear year <;> simp [daysBeforeMonth, daysInMonth, h]

/-- The days before the next year are those before a year and those of its months. -/
theorem daysBeforeYear_succ {year : Nat} (h : 1 ≤ year) :
    daysBeforeYear (year + 1) = daysBeforeYear year + daysBeforeMonth year 13 := by
  -- Each of the three quotients grows by one exactly in the years that it divides.
  have h4 : year / 4 = (year - 1) / 4 + if year % 4 = 0 then 1 else 0 := by split <;> omega
  have h100 : year / 100 = (year - 1) / 100 + if year % 100 = 0 then 1 else 0 := by
    split <;> omega
  have h400 : year / 400 = (year - 1) / 400 + if year % 400 = 0 then 1 else 0 := by
    split <;> omega
  have hle : (year - 1) / 100 ≤ (year - 1) / 4 := by omega
  have hcentury : year % 100 = 0 → year % 4 = 0 := by omega
  have hfourth : year % 400 = 0 → year % 100 = 0 := by omega
  rw [daysBeforeMonth_thirteen]
  simp only [daysBeforeYear, isLeapYear, Nat.add_sub_cancel, h4, h100, h400]
  generalize (year - 1) / 4 = fours at *
  generalize (year - 1) / 100 = centuries at *
  generalize (year - 1) / 400 = fourths at *
  by_cases d4 : year % 4 = 0 <;> by_cases d100 : year % 100 = 0 <;>
    by_cases d400 : year % 400 = 0 <;> simp_all <;> omega

end FundsTransfer.Calendar
