import Mathlib.Data.List.Forall2
import FundsTransfer.Findings
import FundsTransfer.Instruction.Progress

/-!
# The wording of an instruction in full form

An instruction in full form fills every slot of the grammar: a keyword stands wherever one has to,
and any word stands in a free slot.  This module says what such an instruction is read as, whatever
the free words are.

Main results:

- Theorems `advance_cons_keyword`, `advance_cons_account` and the like: the progress by one word,
  slot by slot.
- Theorem `ofWords_eq_of_isSpelled`: the reading of an instruction in full form, which fails exactly
  if the number in its amount slot is too long.
-/

namespace FundsTransfer

/-! ## Full form -/

/-- The words in the free slots of an instruction, with the direction that it opens with. -/
structure Wording where
  lead : Direction
  amount : String
  currency : String
  debitId : String
  creditId : String
  date : Option String
deriving DecidableEq, Repr

/-- A part of the grammar: a keyword in any letter case, or a word that is taken as it is. -/
inductive Piece where
  | keyword (word : String)
  | given (word : String)
deriving DecidableEq, Repr

/-- A word fits a part of the grammar. -/
def Piece.Fits : Piece → String → Prop
  | keyword expected, word => Text.upper word = expected
  | given expected, word => word = expected

instance (piece : Piece) (word : String) : Decidable (piece.Fits word) :=
  match piece with
  | .keyword expected => inferInstanceAs (Decidable (Text.upper word = expected))
  | .given expected => inferInstanceAs (Decidable (word = expected))

namespace Wording

/-- The id of the account on a side. -/
def accountId (wording : Wording) : Direction → String
  | .debit => wording.debitId
  | .credit => wording.creditId

/-- The parts that name the account on a side. -/
def accountPieces (wording : Wording) (side : Direction) : List Piece :=
  [.keyword side.preposition, .keyword "ACCOUNT", .given (wording.accountId side)]

/-- The parts that name the date, if there is one. -/
def datePieces (wording : Wording) : List Piece :=
  match wording.date with
  | some date => [.keyword "ON", .given date]
  | none => []

/-- The parts of an instruction in full form, in order. -/
def pieces (wording : Wording) : List Piece :=
  [.keyword wording.lead.keyword, .given wording.amount, .given wording.currency] ++
    wording.accountPieces wording.lead ++
    [.keyword "FOR", .keyword wording.lead.opposite.keyword] ++
    wording.accountPieces wording.lead.opposite ++
    wording.datePieces

/-- The words spell an instruction in full form: each of them fits its part of the grammar. -/
def IsSpelled (wording : Wording) (words : List String) : Prop :=
  List.Forall₂ Piece.Fits wording.pieces words

/-- The word in the date slot is no date. -/
def hasBadDate (wording : Wording) : Bool :=
  wording.date.any (!Calendar.isWellFormedDate ·)

/-- What an instruction in full form is read as, given the amount that its amount word states. -/
def reading (wording : Wording) (amount : Option Nat) : Reading where
  heading := some (.side wording.lead)
  amount := amount.map Int.ofNat
  currency := some (Text.upper wording.currency)
  debitId := some wording.debitId
  creditId := some wording.creditId
  executeBy := wording.date.filter Calendar.isWellFormedDate
  breaches := reportIf (amount = none) .badAmount ++ reportIf wording.hasBadDate .badDate

/-- The free slots of an instruction are among its parts. -/
theorem given_mem_pieces (wording : Wording) :
    .given wording.amount ∈ wording.pieces ∧ .given wording.currency ∈ wording.pieces ∧
      .given wording.debitId ∈ wording.pieces ∧ .given wording.creditId ∈ wording.pieces ∧
      ∀ date ∈ wording.date, .given date ∈ wording.pieces := by
  rcases wording with ⟨lead, amount, currency, debitId, creditId, date⟩
  cases lead <;> cases date <;>
    simp [pieces, accountPieces, accountId, datePieces, Direction.opposite]

end Wording

/-! ## One word at a time -/

/-- The direction of a reading is that of its heading. -/
theorem Reading.lead_of_heading {reading : Reading} {side : Direction}
    (hheading : reading.heading = some (.side side)) : reading.lead = side := by
  cases side <;> simp [Reading.lead, hheading]

@[simp]
theorem Reading.heading_withAmount (reading : Reading) (amount : Option Nat) :
    (reading.withAmount amount).heading = reading.heading := by
  cases amount <;> rfl

@[simp]
theorem Reading.heading_withAccount (reading : Reading) (side : Direction) (id : String) :
    (reading.withAccount side id).heading = reading.heading := by
  cases side <;> rfl

/-- A word that the slot admits leads to the next stage. -/
theorem advance_cons_of_onward {stage next : Stage} {reading later : Reading} {word : String}
    {rest : List String} (hread : stage.read word reading = .ok (.onward next later)) :
    advance stage reading (word :: rest) = advance next later rest := by
  simp [advance, hread, Progress.onward]

/-- The keyword of a direction opens an instruction. -/
theorem advance_cons_direction {reading : Reading} {side : Direction} {word : String}
    {rest : List String} (hword : Text.upper word = side.keyword) :
    advance .start reading (word :: rest) =
      advance .direction { reading with heading := some (.side side) } rest := by
  apply advance_cons_of_onward
  simp only [Stage.read, Stage.slot, Direction.ofKeyword?_eq_some_iff.2 hword]
  rfl

/-- Any word may stand in the amount slot, unless its number is too long. -/
theorem advance_cons_amount {reading : Reading} {word : String} {rest : List String} :
    advance .direction reading (word :: rest) =
      (readAmount word).bind fun amount => advance .amount (reading.withAmount amount) rest := by
  cases hamount : readAmount word with
  | ok amount =>
      apply advance_cons_of_onward
      simp only [Stage.read, Stage.slot, hamount]
      rfl
  | error fault =>
      simp only [advance, Stage.read, Stage.slot, hamount]
      rfl

/-- Any word may stand in the currency slot. -/
theorem advance_cons_currency {reading : Reading} {word : String} {rest : List String} :
    advance .amount reading (word :: rest) =
      advance .currency { reading with currency := some (Text.upper word) } rest := by
  apply advance_cons_of_onward
  rfl

/-- A keyword has to stand in its slot. -/
theorem advance_cons_keyword (stage : Stage) {reading : Reading} {word : String}
    {rest : List String} {expected : Direction → String} {breach : Breach}
    (hslot : stage.slot = .keyword expected breach)
    (hword : Text.upper word = expected reading.lead) :
    advance stage reading (word :: rest) = advance stage.next reading rest := by
  apply advance_cons_of_onward
  simp only [Stage.read, hslot, hword, if_true]

/-- Any word may stand in an account slot. -/
theorem advance_cons_account (stage : Stage) {reading : Reading} {word : String}
    {rest : List String} {side : Direction → Direction} (hslot : stage.slot = .account side) :
    advance stage reading (word :: rest) =
      advance stage.next (reading.withAccount (side reading.lead) word) rest := by
  apply advance_cons_of_onward
  simp only [Stage.read, hslot]

/-- Any word may stand in the date slot. -/
theorem advance_cons_date {reading : Reading} {word : String} {rest : List String} :
    advance .dateKeyword reading (word :: rest) =
      advance .date (reading.withDate word) rest := by
  apply advance_cons_of_onward
  rfl

/-! ## Full form, part by part -/

/-- Words that fit some parts and then others are words for the former and then for the latter. -/
theorem exists_words_of_fits_append {pieces more : List Piece} {words : List String}
    (hfits : List.Forall₂ Piece.Fits (pieces ++ more) words) :
    ∃ front rest, words = front ++ rest ∧ List.Forall₂ Piece.Fits pieces front ∧
      List.Forall₂ Piece.Fits more rest := by
  induction pieces generalizing words with
  | nil => exact ⟨[], words, rfl, .nil, hfits⟩
  | cons piece pieces ih =>
      rcases hfits with _ | ⟨hword, hfits⟩
      rcases ih hfits with ⟨front, rest, rfl, hfront, hrest⟩
      exact ⟨_ :: front, rest, rfl, .cons hword hfront, hrest⟩

/-- The word that stands in a free slot is one of the words. -/
theorem mem_words_of_given_mem {pieces : List Piece} {words : List String} {word : String}
    (hfits : List.Forall₂ Piece.Fits pieces words) (hgiven : .given word ∈ pieces) :
    word ∈ words := by
  induction hfits with
  | nil => simp at hgiven
  | cons hword _ ih =>
      rcases List.mem_cons.1 hgiven with rfl | hrest
      · rw [Piece.Fits] at hword
        rw [hword]
        exact List.mem_cons_self
      · exact List.mem_cons_of_mem _ (ih hrest)

/-- The words that name the leading account follow the currency. -/
theorem advance_accountPieces_lead {wording : Wording} {reading : Reading}
    {words rest : List String} (hlead : reading.lead = wording.lead)
    (hwords : List.Forall₂ Piece.Fits (wording.accountPieces wording.lead) words) :
    advance .currency reading (words ++ rest) =
      advance .firstAccount
        (reading.withAccount wording.lead (wording.accountId wording.lead)) rest := by
  rcases hwords with _ | ⟨hpreposition, _ | ⟨haccount, _ | ⟨hid, _ | _⟩⟩⟩
  simp only [Piece.Fits] at hpreposition haccount hid
  subst hid
  simp only [List.cons_append, List.nil_append]
  rw [advance_cons_keyword .currency rfl (by rw [hlead, hpreposition]), Stage.next]
  rw [advance_cons_keyword .firstPreposition rfl haccount, Stage.next]
  rw [advance_cons_account .firstAccountKeyword rfl, hlead]
  rfl

/-- The words that name the other account follow the keyword of the other direction. -/
theorem advance_accountPieces_opposite {wording : Wording} {reading : Reading}
    {words rest : List String} (hlead : reading.lead = wording.lead)
    (hwords : List.Forall₂ Piece.Fits (wording.accountPieces wording.lead.opposite) words) :
    advance .counterDirection reading (words ++ rest) =
      advance .secondAccount
        (reading.withAccount wording.lead.opposite (wording.accountId wording.lead.opposite))
        rest := by
  rcases hwords with _ | ⟨hpreposition, _ | ⟨haccount, _ | ⟨hid, _ | _⟩⟩⟩
  simp only [Piece.Fits] at hpreposition haccount hid
  subst hid
  simp only [List.cons_append, List.nil_append]
  rw [advance_cons_keyword .counterDirection rfl (by rw [hlead, hpreposition]), Stage.next]
  rw [advance_cons_keyword .secondPreposition rfl haccount, Stage.next]
  rw [advance_cons_account .secondAccountKeyword rfl, hlead]
  rfl

/-- The reading with the date of an instruction in full form, if it has one. -/
def Reading.withDateOf (reading : Reading) (wording : Wording) : Reading :=
  match wording.date with
  | some date => reading.withDate date
  | none => reading

/-- An instruction in full form ends after its second account or after its date. -/
theorem readFrom_datePieces {wording : Wording} {reading : Reading} {words : List String}
    (hwords : List.Forall₂ Piece.Fits wording.datePieces words) :
    readFrom .secondAccount reading words = .ok (reading.withDateOf wording) := by
  unfold Wording.datePieces at hwords
  unfold Reading.withDateOf readFrom
  split at hwords
  · rcases hwords with _ | ⟨hon, _ | ⟨hword, _ | _⟩⟩
    simp only [Piece.Fits] at hon hword
    subst hword
    rw [advance_cons_keyword .secondAccount rfl hon, Stage.next, advance_cons_date, advance_nil]
    rfl
  · rcases hwords with _ | _
    rfl

/-- Filling slot after slot gives the reading of the whole. -/
theorem reading_eq_of_filled (wording : Wording) (amount : Option Nat) :
    ((Reading.withAccount
        { Reading.withAmount { heading := some (.side wording.lead) } amount with
          currency := some (Text.upper wording.currency) }
        wording.lead (wording.accountId wording.lead)).withAccount
        wording.lead.opposite (wording.accountId wording.lead.opposite)).withDateOf wording =
      wording.reading amount := by
  rcases wording with ⟨lead, amountWord, currency, debitId, creditId, date⟩
  cases date with
  | none => cases lead <;> cases amount <;> rfl
  | some date =>
      by_cases hdate : Calendar.isWellFormedDate date <;> cases lead <;> cases amount <;>
        simp [Reading.withDateOf, Reading.withDate, Reading.withAccount, Reading.withAmount,
          Reading.report, Wording.reading, Wording.accountId, Wording.hasBadDate, reportIf,
          Direction.opposite, Option.filter, hdate]

/-- An instruction in full form is read part by part; only its amount may be too long to be read. -/
theorem ofWords_eq_of_isSpelled {wording : Wording} {words : List String}
    (hspelled : wording.IsSpelled words) :
    Reading.ofWords words = (readAmount wording.amount).map wording.reading := by
  unfold Wording.IsSpelled Wording.pieces at hspelled
  simp only [List.append_assoc] at hspelled
  rcases exists_words_of_fits_append hspelled with ⟨opening, rest, rfl, hopening, hspelled⟩
  rcases exists_words_of_fits_append hspelled with ⟨first, rest, rfl, hfirst, hspelled⟩
  rcases exists_words_of_fits_append hspelled with ⟨middle, rest, rfl, hmiddle, hspelled⟩
  rcases exists_words_of_fits_append hspelled with ⟨second, date, rfl, hsecond, hdate⟩
  rcases hopening with _ | ⟨hdirection, _ | ⟨hamount, _ | ⟨hcurrency, _ | _⟩⟩⟩
  rcases hmiddle with _ | ⟨hfor, _ | ⟨hopposite, _ | _⟩⟩
  simp only [Piece.Fits] at hdirection hamount hcurrency hfor hopposite
  subst hamount hcurrency
  simp only [List.cons_append, List.nil_append]
  rw [Reading.ofWords, readFrom, advance_cons_direction hdirection, advance_cons_amount]
  cases hread : readAmount wording.amount with
  | error fault => rfl
  | ok amount =>
      have hheading : ∀ reading : Reading, reading.heading = some (.side wording.lead) →
          reading.lead = wording.lead := fun _ => Reading.lead_of_heading
      simp only [Except.bind]
      rw [advance_cons_currency]
      rw [advance_accountPieces_lead (hheading _ (by simp)) hfirst]
      rw [advance_cons_keyword .firstAccount rfl hfor, Stage.next]
      rw [advance_cons_keyword .purpose rfl (by rw [hheading _ (by simp), hopposite]), Stage.next]
      rw [advance_accountPieces_opposite (hheading _ (by simp)) hsecond]
      rw [← readFrom, readFrom_datePieces hdate]
      exact congrArg Except.ok (reading_eq_of_filled wording amount)

end FundsTransfer
