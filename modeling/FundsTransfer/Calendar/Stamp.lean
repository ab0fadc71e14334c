import FundsTransfer.Calendar.Date
import FundsTransfer.Fault
import FundsTransfer.Numeral.Decimal

/-!
# Written dates

A date is written as four figures for the year, two for the month and two for the day, divided by
dashes.  Such a stamp need not name a date of the calendar: `2025-02-31` is well formed, and stands
for the day that lies 30 days after 1 February.

Main definitions:

- `Stamp`: the three numbers of a written date.
- `Stamp.ofText`: the stamp at the front of a text.
- `isWellFormedDate`: the texts that may stand for a date in an instruction.
- `Stamp.isAfter`: the comparison with a date of the calendar.
-/

namespace FundsTransfer.Calendar

/-! ## Parts of a text -/

/-- The place of the year in a text. -/
def yearPart (text : List Char) : List Char :=
  text.take 4

/-- The place of the month in a text. -/
def monthPart (text : List Char) : List Char :=
  (text.drop 5).take 2

/-- The place of the day in a text. -/
def dayPart (text : List Char) : List Char :=
  (text.drop 8).take 2

/-- A month and a day of the calendar, the lengths of months apart. -/
def isPlausible (month day : Nat) : Bool :=
  1 ≤ month && month ≤ 12 && 1 ≤ day && day ≤ 31

/-- The three parts of a text are digits, and name a plausible month and day. -/
def hasPlausibleParts (text : List Char) : Bool :=
  (yearPart text ++ monthPart text ++ dayPart text).all Char.isDigit &&
    isPlausible (Numeral.value (monthPart text)) (Numeral.value (dayPart text))

/-- A text is a well-formed date when it has the form `YYYY-MM-DD` and its month and day are
plausible; the lengths of months are not looked at. -/
def isWellFormedDate (text : String) : Bool :=
  text.toList.length == 10 && text.toList[4]? == some '-' && text.toList[7]? == some '-' &&
    hasPlausibleParts text.toList

/-- The date of the calendar that a well-formed text names, if there is one. -/
def Date.ofText? (text : String) : Option Date :=
  if isWellFormedDate text then
    Date.of? (Numeral.value (yearPart text.toList)) (Numeral.value (monthPart text.toList))
      (Numeral.value (dayPart text.toList))
  else none

/-! ## Stamps -/

/-- The year, month and day of a date as written, not checked against the calendar. -/
structure Stamp where
  year : Int
  month : Int
  day : Int
deriving DecidableEq, Repr

/-- The number that a part of a text denotes. -/
def readFigures (part : List Char) : Except Fault Int :=
  match Numeral.figures? part with
  | some n => .ok n
  | none => .error (.unreadableFigures (String.ofList part))

/-- The stamp in the first ten characters of a text.  The characters between its parts are free,
and each part may be written in any figures. -/
def Stamp.ofText (text : String) : Except Fault Stamp := do
  let year ← readFigures (yearPart text.toList)
  let month ← readFigures (monthPart text.toList)
  let day ← readFigures (dayPart text.toList)
  return ⟨year, month, day⟩

/-- The number of the day that a stamp stands for. -/
def Stamp.dayNumber (stamp : Stamp) : Int :=
  Calendar.dayNumber stamp.year.toNat stamp.month.toNat 0 + stamp.day

/-- Whether a stamp lies after a date.  A stamp before year 1 lies before all dates; any other
stamp has to name a month and has to lie within the calendar. -/
def Stamp.isAfter (stamp : Stamp) (today : Date) : Except Fault Bool :=
  if stamp.year < 1 then .ok false
  else if stamp.month < 1 ∨ 12 < stamp.month then .error .monthOutOfRange
  else if stamp.dayNumber < 1 ∨ lastDayNumber < stamp.dayNumber then .error .dateOutOfRange
  else .ok (today.dayNumber < stamp.dayNumber)

/-- Whether a written date lies after a date of the calendar. -/
def isAfter (text : String) (today : Date) : Except Fault Bool :=
  match Stamp.ofText text with
  | .ok stamp => stamp.isAfter today
  | .error fault => .error fault

end FundsTransfer.Calendar
