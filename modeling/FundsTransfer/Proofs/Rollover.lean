import FundsTransfer.Proofs.Calendar

/-!
# Written dates and days that roll over

A well-formed date is a year, a month and a day in so many digits, with zeros in front.  Its day may be
one that the month does not have; such a day stands for one of the first days of the next month.
Comparing a written date with a date of the calendar is comparing year, month and day, in this order,
after the day has rolled over.

Main definitions:

- `Numeral.padded`: a number in decimal, with zeros in front.
- `dateText`, `IsDateText`: the text of a year, a month and a day.
- `rolledOver`: the year, month and day that a written date stands for.

Main results:

- Theorem `Numeral.eq_padded`: the digits of a numeral are those of its number, with zeros in front.
- Theorem `isWellFormedDate_iff`: the well-formed dates are the texts of a year, a month and a day.
- Theorem `Date.dayNumber_lt_iff`: dates are numbered in the order of year, month and day.
- Theorem `exists_date_rolledOver`: the date of the calendar that a written date stands for.
- Theorem `isAfter_dateText_iff`: which texts are dates, and which of these lie after a date of the
  calendar.
-/

namespace FundsTransfer

/-! ## Numbers with zeros in front -/

namespace Numeral

/-- The digits of a number in decimal, with zeros in front up to a width. -/
def padded (width n : Nat) : List Char :=
  (Nat.toDigits 10 n).leftpad width '0'

/-- A number that is not too long fills the width. -/
theorem length_padded {width n : Nat} (hwidth : 0 < width) (hlt : n < 10 ^ width) :
    (padded width n).length = width := by
  have hlength : (Nat.toDigits 10 n).length ≤ width :=
    (Nat.length_toDigits_le_iff (by decide) hwidth).2 hlt
  rw [padded, List.length_leftpad, Nat.max_eq_left hlength]

/-- A number in decimal consists of digits, also with zeros in front. -/
theorem isDigit_of_mem_padded {width n : Nat} {c : Char} (hmem : c ∈ padded width n) :
    c.isDigit = true := by
  rw [padded, List.leftpad, List.mem_append] at hmem
  rcases hmem with hzero | hdigit
  · rw [List.eq_of_mem_replicate hzero]
    rfl
  · exact Nat.isDigit_of_mem_toDigits (by decide) (by decide) hdigit

/-- Zeros in front of a numeral do not count. -/
theorem value_replicate_append (zeros : Nat) (digits : List Char) :
    value (List.replicate zeros '0' ++ digits) = value digits := by
  induction zeros with
  | zero => rfl
  | succ zeros ih =>
      rw [List.replicate_succ, List.cons_append, value_cons, ih, Nat.sub_self, Nat.mul_zero,
        Nat.zero_add]

@[simp]
theorem value_padded (width n : Nat) : value (padded width n) = n := by
  rw [padded, List.leftpad, value_replicate_append, value_toDigits]

/-- Numerals of the same length that denote the same number are the same. -/
theorem eq_of_value_eq {digits others : List Char} (hlength : digits.length = others.length)
    (hdigits : ∀ c ∈ digits, c.isDigit = true) (hothers : ∀ c ∈ others, c.isDigit = true)
    (hvalue : value digits = value others) : digits = others := by
  induction digits generalizing others with
  | nil => exact (List.length_eq_zero_iff.1 hlength.symm).symm
  | cons c rest ih =>
      cases others with
      | nil => cases hlength
      | cons d later =>
          have hlengths : rest.length = later.length := Nat.succ.inj hlength
          have hrest := fun e he => hdigits e (List.mem_cons_of_mem c he)
          have hlater := fun e he => hothers e (List.mem_cons_of_mem d he)
          have hbound := value_lt_pow hrest
          have hbound' := value_lt_pow hlater
          rw [value_cons, value_cons, hlengths] at hvalue
          rw [hlengths] at hbound
          -- What follows the first digit is less than one of its units, so the first digits agree.
          have hfirst : c.toNat - '0'.toNat = d.toNat - '0'.toNat := by
            have hquotient := congrArg (· / 10 ^ later.length) hvalue
            simpa [Nat.mul_add_div, Nat.div_eq_of_lt hbound, Nat.div_eq_of_lt hbound'] using
              hquotient
          rw [hfirst] at hvalue
          rw [ih hlengths hrest hlater (Nat.add_left_cancel hvalue)]
          have hc := Char.isDigit_iff_toNat.1 (hdigits c List.mem_cons_self)
          have hd := Char.isDigit_iff_toNat.1 (hothers d List.mem_cons_self)
          have hzero : '0'.toNat = 48 := rfl
          rw [Char.toNat_inj.1 (show c.toNat = d.toNat by omega)]

/-- The digits of a numeral are those of its number, with zeros in front up to its length. -/
theorem eq_padded {width : Nat} {digits : List Char} (hwidth : 0 < width)
    (hlength : digits.length = width) (hdigits : ∀ c ∈ digits, c.isDigit = true) :
    digits = padded width (value digits) := by
  subst hlength
  apply eq_of_value_eq _ hdigits (fun _ hc => isDigit_of_mem_padded hc) (value_padded _ _).symm
  exact (length_padded hwidth (value_lt_pow hdigits)).symm

end Numeral

namespace Calendar

/-! ## Dates as texts -/

/-- Three parts with dashes between them. -/
def dashed (year month day : List Char) : List Char :=
  year ++ '-' :: (month ++ '-' :: day)

/-- The text of a year in four digits, a month in two and a day in two, divided by dashes. -/
def dateText (year month day : Nat) : String :=
  String.ofList (dashed (Numeral.padded 4 year) (Numeral.padded 2 month) (Numeral.padded 2 day))

/-- A text is that of a year, a month and a day, where the lengths of months are not looked at. -/
structure IsDateText (text : String) (year month day : Nat) : Prop where
  text_eq : text = dateText year month day
  year_le : year ≤ 9999
  one_le_month : 1 ≤ month
  month_le : month ≤ 12
  one_le_day : 1 ≤ day
  day_le : day ≤ 31

/-- A text of ten characters with dashes in their places is made up of its three parts. -/
theorem eq_dashed_parts {text : List Char} (hlength : text.length = 10)
    (hfirst : text[4]? = some '-') (hsecond : text[7]? = some '-') :
    text = dashed (yearPart text) (monthPart text) (dayPart text) := by
  match text, hlength with
  | [_, _, _, _, _, _, _, _, _, _], _ =>
      cases hfirst
      cases hsecond
      rfl

/-- Parts of four, two and two characters make up a text with dashes in their places. -/
theorem parts_dashed {year month day : List Char} (hyear : year.length = 4)
    (hmonth : month.length = 2) (hday : day.length = 2) :
    ((dashed year month day).length = 10 ∧ (dashed year month day)[4]? = some '-' ∧
        (dashed year month day)[7]? = some '-') ∧
      yearPart (dashed year month day) = year ∧ monthPart (dashed year month day) = month ∧
      dayPart (dashed year month day) = day := by
  match year, month, day, hyear, hmonth, hday with
  | [_, _, _, _], [_, _], [_, _], _, _, _ => exact ⟨⟨rfl, rfl, rfl⟩, rfl, rfl, rfl⟩

/-- The parts of the text of a year, a month and a day are these numbers with zeros in front. -/
structure HasPaddedParts (text : String) (year month day : Nat) : Prop where
  dashes : text.toList.length = 10 ∧ text.toList[4]? = some '-' ∧ text.toList[7]? = some '-'
  yearPart_eq : yearPart text.toList = Numeral.padded 4 year
  monthPart_eq : monthPart text.toList = Numeral.padded 2 month
  dayPart_eq : dayPart text.toList = Numeral.padded 2 day

/-- The text of a year, a month and a day has these as its parts. -/
theorem IsDateText.hasPaddedParts {text : String} {year month day : Nat}
    (hdate : IsDateText text year month day) : HasPaddedParts text year month day := by
  have hyear : (Numeral.padded 4 year).length = 4 :=
    Numeral.length_padded (by decide) (Nat.lt_succ_of_le hdate.year_le)
  have hmonth : (Numeral.padded 2 month).length = 2 :=
    Numeral.length_padded (by decide) (Nat.lt_of_le_of_lt hdate.month_le (by decide))
  have hday : (Numeral.padded 2 day).length = 2 :=
    Numeral.length_padded (by decide) (Nat.lt_of_le_of_lt hdate.day_le (by decide))
  rcases parts_dashed hyear hmonth hday with ⟨hdashes, hyears, hmonths, hdays⟩
  rw [hdate.text_eq, dateText]
  constructor <;> rw [String.toList_ofList] <;> assumption

/-- The numbers in the text of a year, a month and a day. -/
theorem IsDateText.written_eq {text : String} {year month day : Nat}
    (hdate : IsDateText text year month day) :
    writtenYear text = year ∧ writtenMonth text = month ∧ writtenDay text = day := by
  have hparts := hdate.hasPaddedParts
  rw [writtenYear, writtenMonth, writtenDay, hparts.yearPart_eq, hparts.monthPart_eq,
    hparts.dayPart_eq]
  simp only [Numeral.value_padded, and_self]

/-- The text of a year, a month and a day is a well-formed date. -/
theorem IsDateText.isWellFormedDate {text : String} {year month day : Nat}
    (hdate : IsDateText text year month day) : isWellFormedDate text = true := by
  have hparts := hdate.hasPaddedParts
  rcases hdate.written_eq with ⟨-, hmonth, hday⟩
  rw [isWellFormedDate_iff_parts, hmonth, hday, hparts.yearPart_eq, hparts.monthPart_eq,
    hparts.dayPart_eq]
  exact ⟨hparts.dashes, ⟨fun _ => Numeral.isDigit_of_mem_padded,
    fun _ => Numeral.isDigit_of_mem_padded, fun _ => Numeral.isDigit_of_mem_padded⟩,
    hdate.one_le_month, hdate.month_le, hdate.one_le_day, hdate.day_le⟩

/-- A well-formed date is the text of the numbers in it. -/
theorem isDateText_of_isWellFormedDate {text : String} (hformed : isWellFormedDate text = true) :
    IsDateText text (writtenYear text) (writtenMonth text) (writtenDay text) := by
  have hplausible := isPlausibleDate_of_isWellFormedDate hformed
  rcases isWellFormedDate_iff_parts.1 hformed with
    ⟨⟨hlength, hfirst, hsecond⟩, ⟨hyear, hmonth, hday⟩, -⟩
  refine ⟨?_, hplausible.year_le, hplausible.one_le_month, hplausible.month_le,
    hplausible.one_le_day, hplausible.day_le⟩
  have hyearEq : yearPart text.toList = Numeral.padded 4 (writtenYear text) :=
    Numeral.eq_padded (by decide) (by simp [yearPart, hlength]) hyear
  have hmonthEq : monthPart text.toList = Numeral.padded 2 (writtenMonth text) :=
    Numeral.eq_padded (by decide) (by simp [monthPart, hlength]) hmonth
  have hdayEq : dayPart text.toList = Numeral.padded 2 (writtenDay text) :=
    Numeral.eq_padded (by decide) (by simp [dayPart, hlength]) hday
  rw [← String.toList_inj, dateText, String.toList_ofList, ← hyearEq, ← hmonthEq, ← hdayEq]
  exact eq_dashed_parts hlength hfirst hsecond

/-- The well-formed dates are the texts of a year, a month and a day. -/
theorem isWellFormedDate_iff {text : String} :
    isWellFormedDate text = true ↔ ∃ year month day, IsDateText text year month day := by
  constructor
  · intro hformed
    exact ⟨_, _, _, isDateText_of_isWellFormedDate hformed⟩
  · rintro ⟨year, month, day, hdate⟩
    exact hdate.isWellFormedDate

/-! ## Days that roll over -/

/-- Dates are numbered in the order of year, month and day. -/
theorem Date.dayNumber_lt_iff {date later : Date} :
    date.dayNumber < later.dayNumber ↔ date.fields < later.fields := by
  constructor
  · intro hlt
    by_contra hnot
    have hle : later ≤ date := by
      simp only [Date.fields, List.cons_lt_cons_iff, List.not_lt_nil, and_false, or_false] at hnot
      change later.year < date.year ∨ later.year = date.year ∧
        (later.month < date.month ∨ later.month = date.month ∧ later.day ≤ date.day)
      omega
    exact absurd hlt (Nat.not_lt.2 (Date.dayNumber_le_of_le hle))
  · exact dayNumber_lt_of_fields_lt

/-- The year, month and day that a written date stands for: a day that its month does not have is
counted on from the first of the next month. -/
def rolledOver (year month day : Nat) : List Nat :=
  if day ≤ daysInMonth year month then [year, month, day]
  else [year, month + 1, day - daysInMonth year month]

/-- The date of the calendar that a written date stands for. -/
theorem exists_date_rolledOver {year month day : Nat} (hyear : 1 ≤ year) (hyears : year ≤ 9999)
    (hfirst : 1 ≤ month) (hlast : month ≤ 12) (hone : 1 ≤ day) (hmost : day ≤ 31) :
    ∃ date : Date, date.fields = rolledOver year month day ∧
      date.dayNumber = dayNumber year month day := by
  unfold rolledOver
  by_cases hday : day ≤ daysInMonth year month
  · rw [if_pos hday]
    exact ⟨⟨year, month, day, hyear, hyears, hfirst, hlast, hone, hday⟩, rfl, rfl⟩
  · rw [if_neg hday]
    -- The month is not the last one of the year, for that has 31 days.
    have hmonth : month ≠ 12 := by
      rintro rfl
      exact hday hmost
    have hlength := le_daysInMonth year month
    have hnext := le_daysInMonth year (month + 1)
    refine ⟨⟨year, month + 1, day - daysInMonth year month, hyear, hyears, by omega, by omega,
      by omega, by omega⟩, rfl, ?_⟩
    change dayNumber year (month + 1) (day - daysInMonth year month) = _
    rw [dayNumber, dayNumber, daysBeforeMonth_succ year hfirst]
    omega

/-- Whether the text of a year, a month and a day lies ahead of a date of the calendar. -/
theorem IsDateText.liesAhead_iff {text : String} {year month day : Nat}
    (hdate : IsDateText text year month day) (today : Date) :
    liesAhead text today = true ↔ 1 ≤ year ∧ today.fields < rolledOver year month day := by
  rcases hdate.written_eq with ⟨hyear, hmonth, hday⟩
  rw [liesAhead, hyear, hmonth, hday, Bool.and_eq_true, decide_eq_true_eq, decide_eq_true_eq]
  apply and_congr_right
  intro hone
  rcases exists_date_rolledOver hone hdate.year_le hdate.one_le_month hdate.month_le
    hdate.one_le_day hdate.day_le with ⟨date, hfields, hnumber⟩
  rw [← hnumber, ← hfields, Date.dayNumber_lt_iff]

/-- Which texts are dates, and which of these lie after a date of the calendar.  A text is well formed
exactly if it is that of a year up to 9999, a month up to 12 and a day up to 31.  Comparing it with
a date of the calendar always has an outcome: the year 0 comes before all dates, and otherwise year,
month and day count in this order, after the day has rolled over. -/
theorem isAfter_dateText_iff (text : String) :
    (isWellFormedDate text = true ↔ ∃ year month day, IsDateText text year month day) ∧
    ∀ year month day, IsDateText text year month day → ∀ today : Date,
      ∃ later, isAfter text today = .ok later ∧
        (later = true ↔ 1 ≤ year ∧ today.fields < rolledOver year month day) := by
  refine ⟨isWellFormedDate_iff, ?_⟩
  intro year month day hdate today
  exact ⟨_, isAfter_eq_liesAhead hdate.isWellFormedDate today, hdate.liesAhead_iff today⟩

/-- In a leap year the 31st of February stands for 2 March, and so it lies after 1 March; the 30th
stands for that day itself. -/
theorem isAfter_endOfFebruary_leap :
    (Date.of? 2024 3 1).map (isAfter "2024-02-31") = some (.ok true) ∧
      (Date.of? 2024 3 1).map (isAfter "2024-02-30") = some (.ok false) := by
  have hlast : IsDateText "2024-02-31" 2024 2 31 :=
    ⟨by decide +kernel, by decide, by decide, by decide, by decide, by decide⟩
  have hlastButOne : IsDateText "2024-02-30" 2024 2 30 :=
    ⟨by decide +kernel, by decide, by decide, by decide, by decide, by decide⟩
  obtain ⟨today, htoday⟩ : ∃ today, Date.of? 2024 3 1 = some today := ⟨_, rfl⟩
  have hfields : today.fields = [2024, 3, 1] := by
    cases htoday
    rfl
  rcases (isAfter_dateText_iff _).2 2024 2 31 hlast today with ⟨later, hlater, hiff⟩
  rcases (isAfter_dateText_iff _).2 2024 2 30 hlastButOne today with ⟨later', hlater', hiff'⟩
  rw [hfields] at hiff hiff'
  have htrue : later = true := hiff.2 (by decide)
  have hfalse : later' = false := by
    rw [Bool.eq_false_iff]
    exact mt hiff'.1 (by decide)
  rw [htoday, Option.map_some, Option.map_some, hlater, hlater', htrue, hfalse]
  exact ⟨rfl, rfl⟩

end Calendar

end FundsTransfer
