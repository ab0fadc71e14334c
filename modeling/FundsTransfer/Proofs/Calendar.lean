import Mathlib.Data.List.Basic
import Mathlib.Tactic.IntervalCases
import FundsTransfer.Calendar.Stamp

/-!
# Well-formed dates in the calendar

A well-formed date may name a day that its month does not have, but the day that it stands for is
never outside the calendar.  Comparing it with a date of the calendar therefore always has an
outcome, and the outcome is a comparison of two numbers.

Main definitions:

- `Date.fields`: the year, month and day of a date, in the order in which dates are compared.
- `liesAhead`: a written date stands for a later day.

Main results:

- Theorem `dayNumber_le_lastDayNumber`: a plausible month and day of a year up to 9999 lie within
  the calendar, also where the day rolls over into the next month.
- Theorem `Date.dayNumber_lt_of_fields_lt`, `Date.dayNumber_le_of_le`: the numbers of dates are in the
  order of the dates.
- Theorem `isWellFormedDate_iff_parts`: the parts of a well-formed date.
- Theorem `isPlausibleDate_of_isWellFormedDate`: the numbers in a well-formed date.
- Theorem `isAfter_eq_liesAhead`: whether a well-formed date lies after a date of the calendar.
-/

namespace FundsTransfer

/-! ## Numerals of plain digits -/

namespace Numeral

/-- No digit is blank. -/
theorem isBlank_eq_false_of_isDigit {c : Char} (hdigit : c.isDigit = true) :
    Text.isBlank c = false := by
  have hrange : 48 ≤ c.toNat ∧ c.toNat ≤ 57 := Char.isDigit_iff_toNat.1 hdigit
  simp only [Text.isBlank, Bool.or_eq_false_iff, Bool.and_eq_false_iff, decide_eq_false_iff_not,
    beq_eq_false_iff_ne]
  omega

/-- A text of digits has no blanks to be trimmed. -/
theorem trimBlanks_of_digits {digits : List Char} (hdigits : ∀ c ∈ digits, c.isDigit = true) :
    trimBlanks digits = digits := by
  have hkeep : ∀ text : List Char, (∀ c ∈ text, c.isDigit = true) →
      text.dropWhile Text.isBlank = text := by
    intro text htext
    cases text with
    | nil => rfl
    | cons c rest =>
        rw [List.dropWhile_cons_of_neg]
        simp [isBlank_eq_false_of_isDigit (htext c List.mem_cons_self)]
  unfold trimBlanks
  rw [hkeep digits hdigits, hkeep digits.reverse, List.reverse_reverse]
  intro c hc
  exact hdigits c (List.mem_reverse.1 hc)

/-- Figures that are plain digits denote what they denote in base ten. -/
theorem figures?_of_digits {digits : List Char} (hne : digits ≠ [])
    (hdigits : ∀ c ∈ digits, c.isDigit = true) :
    figures? digits = some (value digits : Int) := by
  have hunsigned := unsignedFigures?_of_digits hne hdigits
  cases digits with
  | nil => exact absurd rfl hne
  | cons c rest =>
      have hc := hdigits c List.mem_cons_self
      have hminus : c ≠ '-' := by
        rintro rfl
        exact absurd hc (by decide)
      have hplus : c ≠ '+' := by
        rintro rfl
        exact absurd hc (by decide)
      unfold figures?
      rw [trimBlanks_of_digits hdigits]
      split <;> simp_all

/-- The first digit of a numeral counts by the number of digits that follow it. -/
theorem value_cons (c : Char) (rest : List Char) :
    value (c :: rest) = 10 ^ rest.length * (c.toNat - '0'.toNat) + value rest := by
  rw [value, Nat.ofDigitChars_cons, Nat.ofDigitChars_eq_ofDigitChars_zero]
  simp [value]

/-- A numeral is less than the power of ten with as many zeros as it has digits. -/
theorem value_lt_pow {digits : List Char} (hdigits : ∀ c ∈ digits, c.isDigit = true) :
    value digits < 10 ^ digits.length := by
  induction digits with
  | nil => simp
  | cons c rest ih =>
      have hrest := ih fun d hd => hdigits d (List.mem_cons_of_mem _ hd)
      have hc : c.toNat - '0'.toNat ≤ 9 := by
        have hrange := Char.isDigit_iff_toNat.1 (hdigits c List.mem_cons_self)
        have hnine : '9'.toNat = '0'.toNat + 9 := rfl
        omega
      have hfirst := Nat.mul_le_mul_left (10 ^ rest.length) hc
      rw [value_cons, List.length_cons, Nat.pow_succ]
      omega

end Numeral

namespace Calendar

/-! ## Days of a year -/

/-- A year has at least as many days before it as an earlier one. -/
theorem daysBeforeYear_mono {year later : Nat} (hle : year ≤ later) :
    daysBeforeYear year ≤ daysBeforeYear later := by
  induction later, hle using Nat.le_induction with
  | base => exact Nat.le_refl _
  | succ next hle ih =>
      rcases Nat.eq_zero_or_pos next with rfl | hpos
      · exact ih
      · rw [daysBeforeYear_succ hpos]
        omega

/-- Even the 31st of a month that has no such day belongs to the year of the month. -/
theorem dayNumber_le_daysBeforeYear_succ {year month day : Nat} (hyear : 1 ≤ year)
    (hfirst : 1 ≤ month) (hlast : month ≤ 12) (hday : day ≤ 31) :
    dayNumber year month day ≤ daysBeforeYear (year + 1) := by
  rw [daysBeforeYear_succ hyear, dayNumber]
  have hmonths : daysBeforeMonth year month + 31 ≤ daysBeforeMonth year 13 := by
    interval_cases month <;> simp only [daysBeforeMonth, daysInMonth] <;> omega
  omega

/-- A plausible month and day of a year up to 9999 lie within the calendar. -/
theorem dayNumber_le_lastDayNumber {year month day : Nat} (hyear : 1 ≤ year)
    (hyears : year ≤ 9999) (hfirst : 1 ≤ month) (hlast : month ≤ 12) (hday : day ≤ 31) :
    dayNumber year month day ≤ lastDayNumber := by
  calc
    dayNumber year month day ≤ daysBeforeYear (year + 1) :=
      dayNumber_le_daysBeforeYear_succ hyear hfirst hlast hday
    _ ≤ daysBeforeYear 10000 := daysBeforeYear_mono (by omega)
    _ = lastDayNumber := by decide

/-! ## Order of dates -/

/-- Dates are ordered by their years, within a year by their months and within a month by their
days. -/
instance : LE Date where
  le date later :=
    date.year < later.year ∨ date.year = later.year ∧
      (date.month < later.month ∨ date.month = later.month ∧ date.day ≤ later.day)

instance (date later : Date) : Decidable (date ≤ later) :=
  inferInstanceAs (Decidable (_ < _ ∨ _ = _ ∧ (_ < _ ∨ _ = _ ∧ _ ≤ _)))

/-- The days in front of a month are those in front of the month before and its own. -/
theorem daysBeforeMonth_succ (year : Nat) {month : Nat} (hmonth : 1 ≤ month) :
    daysBeforeMonth year (month + 1) = daysBeforeMonth year month + daysInMonth year month := by
  cases month with
  | zero => cases hmonth
  | succ previous => rfl

/-- A later month has at least as many days of its year before it as an earlier one. -/
theorem daysBeforeMonth_mono (year : Nat) {month later : Nat} (hle : month ≤ later) :
    daysBeforeMonth year month ≤ daysBeforeMonth year later := by
  induction later, hle using Nat.le_induction with
  | base => exact Nat.le_refl _
  | succ next _ ih =>
      rcases Nat.eq_zero_or_pos next with rfl | hpos
      · exact ih
      · rw [daysBeforeMonth_succ year hpos]
        omega

/-- The last day of a month comes before the first day of the next one. -/
theorem daysBeforeMonth_add_le {year month day : Nat} (hmonth : 1 ≤ month)
    (hday : day ≤ daysInMonth year month) :
    daysBeforeMonth year month + day ≤ daysBeforeMonth year (month + 1) := by
  rw [daysBeforeMonth_succ year hmonth]
  exact Nat.add_le_add_left hday _

/-- No month is longer than 31 days. -/
theorem daysInMonth_le (year month : Nat) : daysInMonth year month ≤ 31 := by
  unfold daysInMonth
  split
  · split <;> omega
  all_goals omega

/-- No month is shorter than 28 days. -/
theorem le_daysInMonth (year month : Nat) : 28 ≤ daysInMonth year month := by
  unfold daysInMonth
  split
  · split <;> omega
  all_goals omega

/-- The year, the month and the day of a date, in the order in which dates are compared. -/
def Date.fields (date : Date) : List Nat :=
  [date.year, date.month, date.day]

/-- A date that comes before another one has the lesser number. -/
theorem Date.dayNumber_lt_of_fields_lt {date later : Date} (hlt : date.fields < later.fields) :
    date.dayNumber < later.dayNumber := by
  have hone := later.one_le_day
  simp only [Date.fields, List.cons_lt_cons_iff, List.not_lt_nil, and_false, or_false] at hlt
  rcases hlt with hyear | ⟨hyear, hmonth | ⟨hmonth, hday⟩⟩
  · calc
      date.dayNumber ≤ daysBeforeYear (date.year + 1) :=
        dayNumber_le_daysBeforeYear_succ date.one_le_year date.one_le_month date.month_le
          (Nat.le_trans date.day_le (daysInMonth_le _ _))
      _ ≤ daysBeforeYear later.year := daysBeforeYear_mono hyear
      _ < later.dayNumber := by
        rw [Date.dayNumber, Calendar.dayNumber]
        omega
  · have hfirst : daysBeforeMonth date.year date.month + date.day ≤
        daysBeforeMonth date.year (date.month + 1) :=
      daysBeforeMonth_add_le date.one_le_month date.day_le
    have hlast : daysBeforeMonth date.year (date.month + 1) ≤
        daysBeforeMonth date.year later.month :=
      daysBeforeMonth_mono date.year hmonth
    rw [Date.dayNumber, Date.dayNumber, Calendar.dayNumber, Calendar.dayNumber, ← hyear]
    omega
  · rw [Date.dayNumber, Date.dayNumber, Calendar.dayNumber, Calendar.dayNumber, hyear, hmonth]
    omega

/-- A date that does not come after another one does not have the greater number. -/
theorem Date.dayNumber_le_of_le {date later : Date} (hle : date ≤ later) :
    date.dayNumber ≤ later.dayNumber := by
  by_cases hlt : date.fields < later.fields
  · exact Nat.le_of_lt (dayNumber_lt_of_fields_lt hlt)
  · -- Then the two have the same year, month and day.
    have hsame : date.year = later.year ∧ date.month = later.month ∧ date.day = later.day := by
      simp only [Date.fields, List.cons_lt_cons_iff, List.not_lt_nil, and_false, or_false] at hlt
      rcases hle with hyear | ⟨hyear, hmonth | ⟨hmonth, hday⟩⟩ <;> omega
    rw [Date.dayNumber, Date.dayNumber, hsame.1, hsame.2.1, hsame.2.2]

/-! ## Stamps of well-formed dates -/

/-- The year that stands in a written date. -/
def writtenYear (text : String) : Nat :=
  Numeral.value (yearPart text.toList)

/-- The month that stands in a written date. -/
def writtenMonth (text : String) : Nat :=
  Numeral.value (monthPart text.toList)

/-- The day that stands in a written date. -/
def writtenDay (text : String) : Nat :=
  Numeral.value (dayPart text.toList)

/-- A written date lies ahead of a date of the calendar when it stands for a later day.  The year 0
is before all dates. -/
def liesAhead (text : String) (today : Date) : Bool :=
  1 ≤ writtenYear text &&
    today.dayNumber < dayNumber (writtenYear text) (writtenMonth text) (writtenDay text)

/-- The numbers in a well-formed date are plausible. -/
structure IsPlausibleDate (text : String) : Prop where
  year_le : writtenYear text ≤ 9999
  one_le_month : 1 ≤ writtenMonth text
  month_le : writtenMonth text ≤ 12
  one_le_day : 1 ≤ writtenDay text
  day_le : writtenDay text ≤ 31
  ofText_eq : Stamp.ofText text =
    .ok ⟨writtenYear text, writtenMonth text, writtenDay text⟩

/-- A part of a text that consists of digits is read as its number. -/
theorem readFigures_of_digits {part : List Char} (hne : part ≠ [])
    (hdigits : ∀ c ∈ part, c.isDigit = true) :
    readFigures part = .ok (Numeral.value part : Int) := by
  rw [readFigures, Numeral.figures?_of_digits hne hdigits]

/-- A text has the form of a date when it has dashes in their places, digits in all others, and
plausible numbers. -/
theorem isWellFormedDate_iff_parts {text : String} :
    isWellFormedDate text = true ↔
      (text.toList.length = 10 ∧ text.toList[4]? = some '-' ∧ text.toList[7]? = some '-') ∧
      ((∀ c ∈ yearPart text.toList, c.isDigit = true) ∧
        (∀ c ∈ monthPart text.toList, c.isDigit = true) ∧
        ∀ c ∈ dayPart text.toList, c.isDigit = true) ∧
      1 ≤ writtenMonth text ∧ writtenMonth text ≤ 12 ∧ 1 ≤ writtenDay text ∧
      writtenDay text ≤ 31 := by
  simp only [isWellFormedDate, hasPlausibleParts, isPlausible, Bool.and_eq_true, beq_iff_eq,
    decide_eq_true_eq, List.all_append, List.all_eq_true, and_assoc, writtenMonth, writtenDay]

/-- A well-formed date is plausible. -/
theorem isPlausibleDate_of_isWellFormedDate {text : String}
    (hformed : isWellFormedDate text = true) : IsPlausibleDate text := by
  rcases isWellFormedDate_iff_parts.1 hformed with
    ⟨⟨hlength, -, -⟩, ⟨hyear, hmonth, hday⟩, hfirst, hlast, hone, hmost⟩
  have hyears : (yearPart text.toList).length = 4 := by
    simp [yearPart, hlength]
  have hmonths : monthPart text.toList ≠ [] := by
    apply List.ne_nil_of_length_pos
    simp [monthPart, hlength]
  have hdays : dayPart text.toList ≠ [] := by
    apply List.ne_nil_of_length_pos
    simp [dayPart, hlength]
  have hyearne : yearPart text.toList ≠ [] := by
    apply List.ne_nil_of_length_pos
    omega
  refine ⟨?_, hfirst, hlast, hone, hmost, ?_⟩
  · have hlt := Numeral.value_lt_pow hyear
    rw [hyears] at hlt
    exact Nat.le_of_lt_succ hlt
  · unfold Stamp.ofText
    rw [readFigures_of_digits hyearne hyear, readFigures_of_digits hmonths hmonth,
      readFigures_of_digits hdays hday]
    rfl

/-- Comparing a well-formed date with a date of the calendar has an outcome: whether it lies
ahead. -/
theorem isAfter_eq_liesAhead {text : String} (hformed : isWellFormedDate text = true)
    (today : Date) : isAfter text today = .ok (liesAhead text today) := by
  have hparts := isPlausibleDate_of_isWellFormedDate hformed
  have hnumber : Stamp.dayNumber ⟨writtenYear text, writtenMonth text, writtenDay text⟩ =
      (dayNumber (writtenYear text) (writtenMonth text) (writtenDay text) : Int) := by
    simp [Stamp.dayNumber, dayNumber]
  have hfirst := hparts.one_le_month
  have hlast := hparts.month_le
  have hone := hparts.one_le_day
  unfold isAfter
  rw [hparts.ofText_eq]
  simp only [Stamp.isAfter, hnumber]
  by_cases hyear : writtenYear text < 1
  · rw [if_pos (by omega)]
    simp [liesAhead, Nat.lt_one_iff.1 hyear]
  · have hrange := dayNumber_le_lastDayNumber (Nat.not_lt.1 hyear) hparts.year_le hfirst hlast
      hparts.day_le
    have hpos : 1 ≤ dayNumber (writtenYear text) (writtenMonth text) (writtenDay text) := by
      unfold dayNumber
      omega
    rw [if_neg (by omega), if_neg (by omega), if_neg (by omega)]
    simp [liesAhead, Nat.not_lt.1 hyear]

/-- What lies ahead of a date lies ahead of every date before. -/
theorem liesAhead_of_le {text : String} {today later : Date} (hle : today ≤ later)
    (hahead : liesAhead text later = true) : liesAhead text today = true := by
  have hnumber := Date.dayNumber_le_of_le hle
  rw [liesAhead, Bool.and_eq_true, decide_eq_true_eq, decide_eq_true_eq] at hahead ⊢
  exact ⟨hahead.1, Nat.lt_of_le_of_lt hnumber hahead.2⟩

end Calendar

end FundsTransfer
