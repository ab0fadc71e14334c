import FundsTransfer.Instruction.Reading

/-!
# Stages of an instruction

An instruction is read word by word.  Its grammar has two forms,

    DEBIT <amount> <currency> FROM ACCOUNT <id> FOR CREDIT TO ACCOUNT <id> [ON <date>]
    CREDIT <amount> <currency> TO ACCOUNT <id> FOR DEBIT FROM ACCOUNT <id> [ON <date>]

and a stage names the part that was read last.  The slot of a stage says what may follow, where the
direction of the first word decides between the forms.

Main definitions:

- `Stage`: the stages, in the order in which they are reached, with their names.
- `Slot`: what a word may be.
- `Stage.slot`, `Stage.next`: what may follow a stage, and the stage that is reached by it.
- `Stage.isAccepting`: the stages at which an instruction may end.
-/

namespace FundsTransfer

/-- The stages of reading an instruction, each named for the part that was read last. -/
inductive Stage where
  | start
  | direction
  | amount
  | currency
  | firstPreposition
  | firstAccountKeyword
  | firstAccount
  | purpose
  | counterDirection
  | secondPreposition
  | secondAccountKeyword
  | secondAccount
  | dateKeyword
  | date
  | complete
deriving DecidableEq, Repr

/-- What a word may be. -/
inductive Slot where
  /-- The keyword of a direction. -/
  | direction
  /-- Any word; one that states no amount is a breach, but does not end the reading. -/
  | amount
  /-- Any word. -/
  | currency
  /-- One keyword, which may hang on the direction; any other word is the given breach. -/
  | keyword (word : Direction → String) (breach : Breach)
  /-- Any word, the id of the account on a side, which hangs on the direction. -/
  | account (side : Direction → Direction)
  /-- Any word; one that is no date is a breach, but does not end the reading. -/
  | date
  /-- No word at all. -/
  | nothing

namespace Stage

/-- All stages, in the order in which they are reached. -/
def all : List Stage :=
  [start, direction, amount, currency, firstPreposition, firstAccountKeyword, firstAccount,
    purpose, counterDirection, secondPreposition, secondAccountKeyword, secondAccount, dateKeyword,
    date, complete]

/-- The name of a stage. -/
def name : Stage → String
  | start => "START"
  | direction => "TYPE"
  | amount => "AMOUNT"
  | currency => "CURRENCY"
  | firstPreposition => "FIRST_KEYWORD"
  | firstAccountKeyword => "FIRST_ACCOUNT_KEYWORD"
  | firstAccount => "FIRST_ACCOUNT"
  | purpose => "FOR"
  | counterDirection => "SECOND_TYPE"
  | secondPreposition => "SECOND_KEYWORD"
  | secondAccountKeyword => "SECOND_ACCOUNT_KEYWORD"
  | secondAccount => "SECOND_ACCOUNT"
  | dateKeyword => "ON"
  | date => "DATE"
  | complete => "COMPLETE"

/-- The stage with a given name. -/
def ofName? (name : String) : Option Stage :=
  all.find? (·.name == name)

/-- What may follow a stage. -/
def slot : Stage → Slot
  | start => .direction
  | direction => .amount
  | amount => .currency
  | currency => .keyword Direction.preposition .keywordMisplaced
  | firstPreposition => .keyword (fun _ => "ACCOUNT") .keywordMissing
  | firstAccountKeyword => .account id
  | firstAccount => .keyword (fun _ => "FOR") .keywordMissing
  | purpose => .keyword (·.opposite.keyword) .keywordMisplaced
  | counterDirection => .keyword (·.opposite.preposition) .keywordMisplaced
  | secondPreposition => .keyword (fun _ => "ACCOUNT") .keywordMissing
  | secondAccountKeyword => .account Direction.opposite
  | secondAccount => .keyword (fun _ => "ON") .malformed
  | dateKeyword => .date
  | date => .nothing
  | complete => .nothing

/-- The stage that is reached by one more part. -/
def next : Stage → Stage
  | start => direction
  | direction => amount
  | amount => currency
  | currency => firstPreposition
  | firstPreposition => firstAccountKeyword
  | firstAccountKeyword => firstAccount
  | firstAccount => purpose
  | purpose => counterDirection
  | counterDirection => secondPreposition
  | secondPreposition => secondAccountKeyword
  | secondAccountKeyword => secondAccount
  | secondAccount => dateKeyword
  | dateKeyword => date
  | date => complete
  | complete => complete

/-- An instruction may end after its second account and after its date. -/
def isAccepting : Stage → Bool
  | secondAccount => true
  | date => true
  | _ => false

/-- The place of a stage in the order in which stages are reached. -/
def position (stage : Stage) : Nat :=
  all.idxOf stage

/-- No two stages share a name. -/
theorem ofName?_name (stage : Stage) : ofName? stage.name = some stage := by
  cases stage <;> decide

/-- One more part leads one stage further. -/
theorem position_next {stage : Stage} (h : stage ≠ complete) :
    stage.next.position = stage.position + 1 := by
  cases stage <;> first | decide | exact absurd rfl h

end Stage

end FundsTransfer
