import FundsTransfer.Calendar.Stamp
import FundsTransfer.Instruction.Stage
import FundsTransfer.Text.Uppercase
import FundsTransfer.Text.Words

/-!
# Reading an instruction

Each word is matched with the slot of the stage that has been reached.  A word that breaks the
grammar is reported and ends the reading; a bad amount or date is reported, and the reading goes on.
The amount is the positive integer at the front of its word.  Whatever follows the digits is passed
over, but a word with a point anywhere is no amount.

Main definitions:

- `readAmount`: the amount of a word, if it has one.
- `Stage.read`: the progress by one more word.
- `advance`: the progress by a list of words.
- `readFrom`: the reading of a list of words from any stage on.
- `Reading.ofWords`, `Reading.ofText`: the reading of a whole instruction.
- `trace`: the readings after each word.

Main results:

- Theorem `advance_append`: a reading may be broken off after any word and taken up again.
-/

namespace FundsTransfer

/-! ## Amounts -/

/-- Whether a word has a minus sign in front, and the word without its sign. -/
def withoutSign : List Char → Bool × List Char
  | '+' :: rest => (false, rest)
  | '-' :: rest => (true, rest)
  | text => (false, text)

/-- The amount that a word states.  A point, a missing number, a minus sign and a value of zero
make the word state none; a number of more than `Numeral.digitLimit` digits is not read at all. -/
def readAmount (word : String) : Except Fault (Option Nat) :=
  if '.' ∈ word.toList then .ok none
  else
    let (negative, unsigned) := withoutSign word.toList
    let digits := Numeral.leadingDigits unsigned
    if digits.length > Numeral.digitLimit then .error (.numeralTooLong digits.length)
    else
      let n := Numeral.value digits
      .ok (if negative || n == 0 then none else some n)

/-! ## Words in their slots -/

/-- The stage reached after a word, or none if the word ended the reading, and what is read. -/
structure Progress where
  stage : Option Stage
  reading : Reading
deriving DecidableEq, Repr

/-- The word has its place, and the reading goes on. -/
def Progress.onward (stage : Stage) (reading : Reading) : Progress :=
  ⟨some stage, reading⟩

/-- The word is a breach that ends the reading. -/
def Progress.halt (reading : Reading) (breach : Breach) : Progress :=
  ⟨none, reading.report breach⟩

/-- Enters an amount, or reports that there is none. -/
def Reading.withAmount (reading : Reading) : Option Nat → Reading
  | some n => { reading with amount := some (n : Int) }
  | none => reading.report .badAmount

/-- Enters a date, or reports that the word is none. -/
def Reading.withDate (reading : Reading) (word : String) : Reading :=
  if Calendar.isWellFormedDate word then { reading with executeBy := some word }
  else reading.report .badDate

/-- The progress by one more word at a stage. -/
def Stage.read (stage : Stage) (word : String) (reading : Reading) : Except Fault Progress :=
  match stage.slot with
  | .direction =>
    match Direction.ofKeyword? (Text.upper word) with
    | some side => .ok (.onward stage.next { reading with heading := some (.side side) })
    | none => .ok (.halt reading .keywordMissing)
  | .amount => (readAmount word).map fun amount => .onward stage.next (reading.withAmount amount)
  | .currency => .ok (.onward stage.next { reading with currency := some (Text.upper word) })
  | .keyword expected breach =>
    if Text.upper word = expected reading.lead then .ok (.onward stage.next reading)
    else .ok (.halt reading breach)
  | .account side => .ok (.onward stage.next (reading.withAccount (side reading.lead) word))
  | .date => .ok (.onward stage.next (reading.withDate word))
  | .nothing => .ok (.halt reading .malformed)

/-- The reading at the end of the words: an instruction that breaks off early is malformed. -/
def Reading.close (reading : Reading) (stage : Stage) : Reading :=
  if stage.isAccepting then reading else reading.report .malformed

/-- The progress by a list of words; words after the end of the reading are passed over. -/
def advance (stage : Stage) (reading : Reading) : List String → Except Fault Progress
  | [] => .ok (.onward stage reading)
  | word :: rest =>
    match stage.read word reading with
    | .ok ⟨some stage, reading⟩ => advance stage reading rest
    | .ok ⟨none, reading⟩ => .ok ⟨none, reading⟩
    | .error fault => .error fault

/-- The reading that a progress comes to when no word is left. -/
def Progress.finish (progress : Progress) : Reading :=
  match progress.stage with
  | some stage => progress.reading.close stage
  | none => progress.reading

/-- The reading of a list of words from a stage on. -/
def readFrom (stage : Stage) (reading : Reading) (words : List String) : Except Fault Reading :=
  (advance stage reading words).map Progress.finish

namespace Reading

/-- The reading of an instruction that is given as a list of words. -/
def ofWords (words : List String) : Except Fault Reading :=
  readFrom .start {} words

/-- The reading of an instruction. -/
def ofText (text : String) : Except Fault Reading :=
  ofWords (Text.words text)

end Reading

/-- The progress after each word of a list, up to the word that ends the reading. -/
def trace (stage : Stage) (reading : Reading) : List String → Except Fault (List Progress)
  | [] => .ok []
  | word :: rest =>
    match stage.read word reading with
    | .ok ⟨some stage, reading⟩ => (trace stage reading rest).map (⟨some stage, reading⟩ :: ·)
    | .ok ⟨none, reading⟩ => .ok [⟨none, reading⟩]
    | .error fault => .error fault

@[simp]
theorem advance_nil (stage : Stage) (reading : Reading) :
    advance stage reading [] = .ok (.onward stage reading) := rfl

/-- Words may be read in two portions: the second one goes on where the first one ended. -/
theorem advance_append (stage : Stage) (reading : Reading) (words more : List String) :
    advance stage reading (words ++ more) =
      (advance stage reading words).bind fun progress =>
        match progress.stage with
        | some stage => advance stage progress.reading more
        | none => .ok progress := by
  induction words generalizing stage reading with
  | nil => rfl
  | cons word rest ih =>
    simp only [List.cons_append, advance]
    split
    · next stage reading _ => exact ih stage reading
    · rfl
    · rfl

end FundsTransfer
