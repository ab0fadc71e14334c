import FundsTransfer.Complaint
import FundsTransfer.Numeral.Decimal
import FundsTransfer.Service.Reference
import FundsTransfer.Text.Quoted

/-!
# Faults

What stops a computation before it has an answer.

Main definitions:

- `Fault`: the causes.
- `Fault.message`: the wording of a cause.
-/

namespace FundsTransfer

/-- A cause for which a computation stops without an answer. -/
inductive Fault where
  /-- A numeral of this many digits is to be read, more than `Numeral.digitLimit`. -/
  | numeralTooLong (digits : Nat)
  /-- An integer of more than `Numeral.digitLimit` digits is to be written. -/
  | unwritableInteger
  /-- A number that is not finite is to be repeated. -/
  | notFinite
  /-- A string with half of a pair in it is to be repeated. -/
  | tornText
  /-- A value with too many lists and objects inside one another is to be repeated. -/
  | nestedTooDeeply
  /-- A written date names a month that no year has. -/
  | monthOutOfRange
  /-- A written date lies outside the calendar. -/
  | dateOutOfRange
  /-- A text has no figures where a written date has them. -/
  | unreadableFigures (text : String)
  /-- A name is that of no stage. -/
  | unknownStage (name : String)
  /-- A breach is of a kind outside the catalogue, so that no response can name it. -/
  | unknownCode
  /-- A transfer without an amount or without both of its accounts is to be carried out. -/
  | incompleteTransfer
  /-- The text of a request's reference is none. -/
  | badReference (defect : Reference.Defect)
  /-- A complete reference has a scheme that is not served. -/
  | unknownScheme (scheme : String)
  /-- A value from outside does not have the shape that is asked for. -/
  | invalid (complaints : List Complaint)
deriving DecidableEq, Repr

/-- The limit on numerals, and the way to raise it, around what a message says of a numeral. -/
def digitLimitMessage (finding : String) : String :=
  "Exceeds the limit (" ++ toString Numeral.digitLimit ++
    " digits) for integer string conversion" ++ finding ++
    "; use sys.set_int_max_str_digits() to increase the limit"

/-- The wording of a fault. -/
def Fault.message : Fault → String
  | numeralTooLong digits => digitLimitMessage (": value has " ++ toString digits ++ " digits")
  | unwritableInteger => digitLimitMessage ""
  | notFinite => "Out of range float values are not JSON compliant"
  | tornText => "surrogates not allowed"
  | nestedTooDeeply => "maximum recursion depth exceeded"
  | monthOutOfRange => "month must be in 1..12"
  | dateOutOfRange => "date value out of range"
  | unreadableFigures text => "invalid literal for int() with base 10: " ++ Text.quoted text
  | unknownStage name => Text.quoted name ++ " is not a valid State"
  | unknownCode => "'str' object has no attribute 'value'"
  | incompleteTransfer => "Cannot settle an instruction without both accounts and an amount"
  | badReference defect => defect.message
  | unknownScheme scheme => Text.quoted scheme
  | invalid complaints => String.intercalate "; " (complaints.map (·.defect.message))

end FundsTransfer
