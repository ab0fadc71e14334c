import FundsTransfer.Proofs.Settlement
import FundsTransfer.Proofs.Text
import FundsTransfer.Proofs.Wording

/-!
# The two forms of an instruction

The same transfer can be told from either of its sides: as a debit, with the account that is charged
in front, or as a credit, with the account that gains.  Written out in the one form or in the other,
an instruction has the same response, which only says from which side it was told.

Main definitions:

- `Wording.text`: an instruction in full form, written out.
- `Wording.ledBy`, `Reading.ledBy`, `Response.ledBy`: the same, told from a given side.

Main results:

- Theorem `words_text`: the words of an instruction that is written out spell it.
- Theorems `Wording.words_ledBy_debit`, `Wording.words_ledBy_credit`: the two forms word by word.
- Theorem `result_attemptReading_ledBy`: the side from which a transfer is told has no bearing on
  what becomes of it.
- Theorem `response_text_debit_credit`: the responses to both forms of an instruction.
-/

namespace FundsTransfer

/-! ## Instructions written out -/

/-- A part of the grammar as a word: a keyword stands for itself. -/
def Piece.text : Piece → String
  | keyword word => word
  | given word => word

namespace Wording

/-- The words of an instruction in full form, with its keywords in capitals. -/
def words (wording : Wording) : List String :=
  wording.pieces.map Piece.text

/-- An instruction in full form, written out. -/
def text (wording : Wording) : String :=
  " ".intercalate wording.words

/-- What is to stand in the free slots of an instruction are words. -/
structure HasWords (wording : Wording) : Prop where
  amount : Text.IsWord wording.amount
  currency : Text.IsWord wording.currency
  debitId : Text.IsWord wording.debitId
  creditId : Text.IsWord wording.creditId
  date : ∀ date ∈ wording.date, Text.IsWord date

/-- The keywords of the grammar, in capitals. -/
def keywords : List String :=
  ["DEBIT", "CREDIT", "FROM", "TO", "ACCOUNT", "FOR", "ON"]

/-- What holds of all keywords and of the words in the free slots holds of all parts of an
instruction. -/
theorem forall_mem_pieces {wording : Wording} {P : Piece → Prop}
    (hkeyword : ∀ word ∈ keywords, P (.keyword word)) (hamount : P (.given wording.amount))
    (hcurrency : P (.given wording.currency)) (hid : ∀ side, P (.given (wording.accountId side)))
    (hdate : ∀ date ∈ wording.date, P (.given date)) : ∀ piece ∈ wording.pieces, P piece := by
  have hside : ∀ side : Direction, P (.keyword side.keyword) := by
    intro side
    apply hkeyword
    cases side <;> decide
  have haccount : ∀ side, ∀ piece ∈ wording.accountPieces side, P piece := by
    intro side piece hpiece
    simp only [accountPieces, List.mem_cons, List.not_mem_nil, or_false] at hpiece
    rcases hpiece with rfl | rfl | rfl
    · apply hkeyword
      cases side <;> decide
    · exact hkeyword _ (by decide)
    · exact hid side
  have hdates : ∀ piece ∈ wording.datePieces, P piece := by
    intro piece hpiece
    unfold datePieces at hpiece
    split at hpiece
    · rename_i date hdateOf
      simp only [List.mem_cons, List.not_mem_nil, or_false] at hpiece
      rcases hpiece with rfl | rfl
      · exact hkeyword _ (by decide)
      · exact hdate date hdateOf
    · cases hpiece
  intro piece hpiece
  simp only [pieces, List.mem_append, List.mem_cons, List.not_mem_nil, or_false] at hpiece
  rcases hpiece with ((((rfl | rfl | rfl) | hfirst) | rfl | rfl) | hsecond) | hlast
  · exact hside wording.lead
  · exact hamount
  · exact hcurrency
  · exact haccount _ _ hfirst
  · exact hkeyword _ (by decide)
  · exact hside wording.lead.opposite
  · exact haccount _ _ hsecond
  · exact hdates _ hlast

/-- The keywords are in upper case. -/
theorem upper_of_mem_keywords {word : String} (hmem : word ∈ keywords) : Text.upper word = word := by
  simp only [keywords, List.mem_cons, List.not_mem_nil, or_false] at hmem
  rcases hmem with rfl | rfl | rfl | rfl | rfl | rfl | rfl <;> decide +kernel

/-- The keywords are words. -/
theorem isWord_of_mem_keywords {word : String} (hmem : word ∈ keywords) : Text.IsWord word := by
  simp only [keywords, List.mem_cons, List.not_mem_nil, or_false] at hmem
  rcases hmem with rfl | rfl | rfl | rfl | rfl | rfl | rfl <;> decide +kernel

/-- The words of an instruction in full form spell it. -/
theorem isSpelled_words (wording : Wording) : wording.IsSpelled wording.words := by
  rw [IsSpelled, words, List.forall₂_map_right_iff, List.forall₂_same]
  apply forall_mem_pieces
  · intro word hword
    exact upper_of_mem_keywords hword
  · rfl
  · rfl
  · intro side
    rfl
  · intro date _
    rfl

/-- The words of an instruction that is written out are its words, if those in the free slots are
words. -/
theorem words_text {wording : Wording} (hwords : wording.HasWords) :
    Text.words wording.text = wording.words := by
  apply Text.words_intercalate
  intro word hword
  rcases List.mem_map.1 hword with ⟨piece, hpiece, rfl⟩
  have hpieces : ∀ piece ∈ wording.pieces, Text.IsWord piece.text := by
    apply forall_mem_pieces
    · intro keyword hkeyword
      exact isWord_of_mem_keywords hkeyword
    · exact hwords.amount
    · exact hwords.currency
    · intro side
      cases side with
      | debit => exact hwords.debitId
      | credit => exact hwords.creditId
    · exact hwords.date
  exact hpieces piece hpiece

end Wording

/-! ## Told from a side -/

/-- The same instruction, told from a side. -/
def Wording.ledBy (wording : Wording) (side : Direction) : Wording :=
  { wording with lead := side }

/-- Told as a debit, an instruction names the debited account first. -/
theorem Wording.words_ledBy_debit (wording : Wording) :
    (wording.ledBy .debit).words =
      ["DEBIT", wording.amount, wording.currency, "FROM", "ACCOUNT", wording.debitId, "FOR",
        "CREDIT", "TO", "ACCOUNT", wording.creditId] ++
        wording.date.elim [] fun date => ["ON", date] := by
  rcases wording with ⟨lead, amount, currency, debitId, creditId, date⟩
  cases date <;> rfl

/-- Told as a credit, it names the credited account first. -/
theorem Wording.words_ledBy_credit (wording : Wording) :
    (wording.ledBy .credit).words =
      ["CREDIT", wording.amount, wording.currency, "TO", "ACCOUNT", wording.creditId, "FOR",
        "DEBIT", "FROM", "ACCOUNT", wording.debitId] ++
        wording.date.elim [] fun date => ["ON", date] := by
  rcases wording with ⟨lead, amount, currency, debitId, creditId, date⟩
  cases date <;> rfl

/-- The same reading, told from a side. -/
def Reading.ledBy (reading : Reading) (side : Direction) : Reading :=
  { reading with heading := some (.side side) }

/-- The same response, told from a side unless it repeats nothing. -/
def Response.ledBy (response : Response) (side : Direction) : Response :=
  { response with direction := response.direction.map fun _ => side }

/-- Nothing but the direction of a response hangs on the side. -/
theorem ledBy_eq_with_direction (response : Response) (side : Direction) :
    response.ledBy side = { response with direction := (response.ledBy side).direction } := rfl

/-- A reading says from which side the transfer is told. -/
def Reading.HasSide (reading : Reading) : Prop :=
  ∃ side, reading.heading = some (.side side)

section LedBy

variable {reading : Reading} (side : Direction)

/-- A reading that is told from another side is repeated so. -/
theorem echo?_ledBy (hside : reading.HasSide) (outcome : Outcome) (views : List View) :
    Response.echo? (reading.ledBy side) outcome views =
      (Response.echo? reading outcome views).map (·.ledBy side) := by
  rcases hside with ⟨lead, hheading⟩
  simp only [Response.echo?, Reading.direction?, hheading]
  rfl

/-- The side has no bearing on a rejection. -/
theorem reject_ledBy (hside : reading.HasSide) (accounts : List Account) (breach : Breach) :
    reject accounts (reading.ledBy side) breach =
      (reject accounts reading breach).map (·.ledBy side) := by
  unfold reject
  split
  · rfl
  · split
    · exact echo?_ledBy side hside _ _
    · rfl

/-- The side has no bearing on a transfer. -/
theorem transfer_ledBy (hside : reading.HasSide) (accounts : List Account) (debit credit : Account)
    (amount : Int) (today : Calendar.Date) :
    transfer accounts (reading.ledBy side) debit credit amount today =
      (transfer accounts reading debit credit amount today).map (·.ledBy side) := by
  have hdeferred : isDeferred (reading.ledBy side) today = isDeferred reading today := rfl
  rw [transfer, transfer, hdeferred]
  cases isDeferred reading today with
  | error fault => rfl
  | ok ahead =>
      cases ahead with
      | true => exact echo?_ledBy side hside _ _
      | false => exact echo?_ledBy side hside _ _

/-- The side has no bearing on what is carried out. -/
theorem carryOut_ledBy (hside : reading.HasSide) (accounts : List Account)
    (debit credit : Option Account) (today : Calendar.Date) :
    carryOut accounts (reading.ledBy side) debit credit today =
      (carryOut accounts reading debit credit today).map (·.ledBy side) := by
  have hamount : (reading.ledBy side).amount = reading.amount := rfl
  unfold carryOut
  rw [hamount]
  split
  · exact transfer_ledBy side hside accounts _ _ _ today
  · rfl

/-- The side from which a transfer is told has no bearing on what becomes of it. -/
theorem result_attemptReading_ledBy (hside : reading.HasSide) (accounts : List Account)
    (today : Calendar.Date) :
    (attemptReading accounts today (reading.ledBy side)).result =
      (attemptReading accounts today reading).result.map (·.ledBy side) := by
  have hinspect : inspect accounts (reading.ledBy side) = inspect accounts reading := rfl
  rw [attemptReading, attemptReading, hinspect]
  cases inspect accounts reading with
  | error fault => rfl
  | ok found =>
      simp only [attemptFound]
      split
      · exact reject_ledBy side hside accounts _
      · rw [result_ofExecution, result_ofExecution]
        exact carryOut_ledBy side hside accounts _ _ today

end LedBy

/-! ## Both forms -/

/-- An instruction in full form says from which side it is told. -/
theorem hasSide_reading (wording : Wording) (amount : Option Nat) :
    (wording.reading amount).HasSide :=
  ⟨wording.lead, rfl⟩

/-- Two texts that spell an instruction from either side have the same response but for the side. -/
theorem response_of_isSpelled_ledBy {wording : Wording} {side : Direction} {text other : String}
    (hspelled : wording.IsSpelled (Text.words text))
    (hother : (wording.ledBy side).IsSpelled (Text.words other)) (accounts : List Account)
    (today : Calendar.Date) :
    (answerText accounts today other).response =
      (answerText accounts today text).response.ledBy side := by
  have hread := ofWords_eq_of_isSpelled hspelled
  have hreadOther := ofWords_eq_of_isSpelled hother
  have hamount : (wording.ledBy side).amount = wording.amount := rfl
  rw [hamount] at hreadOther
  simp only [answerText, attempt, Reading.ofText, hread, hreadOther]
  cases readAmount wording.amount with
  | error fault => rfl
  | ok amount =>
      have hresult := result_attemptReading_ledBy side (hasSide_reading wording amount) accounts today
      change (attemptReading accounts today ((wording.ledBy side).reading amount)).result = _
        at hresult
      simp only [Except.map, Attempt.conclude, hresult]
      cases (attemptReading accounts today (wording.reading amount)).result with
      | error fault => rfl
      | ok response => rfl

/-- The response to an instruction in full form says from which side it is told, unless it repeats
nothing. -/
theorem direction_of_isSpelled {wording : Wording} {text : String}
    (hspelled : wording.IsSpelled (Text.words text)) (accounts : List Account)
    (today : Calendar.Date) :
    (answerText accounts today text).response.direction = some wording.lead ∨
      (answerText accounts today text).response.direction = none := by
  have hecho : ∀ {reading : Reading} {outcome : Outcome} {views : List View} {response : Response},
      Reading.ofText text = .ok reading → Response.echo? reading outcome views = .ok response →
      response.direction = some wording.lead := by
    intro reading outcome views response hread hecho
    rw [Reading.ofText, ofWords_eq_of_isSpelled hspelled] at hread
    obtain ⟨amount, _, rfl⟩ := exists_eq_ok_of_map hread
    cases hecho
    rfl
  have hanswers : Answers accounts today (.str text) (answerText accounts today text).response :=
    answers_answer accounts today (.str text)
  generalize (answerText accounts today text).response = response at hanswers
  cases hanswers with
  | blank hunreadable => exact Or.inr rfl
  | rejected hread hfit hprimary hreadable hecho' => exact Or.inl (hecho hread hecho')
  | scheduled hread hcleared hdeferred hecho' => exact Or.inl (hecho hread hecho')
  | executed hread hcleared hdeferred hecho' => exact Or.inl (hecho hread hecho')

/-- The words of an instruction are words from whichever side it is told. -/
theorem Wording.HasWords.ledBy {wording : Wording} (hwords : wording.HasWords) (side : Direction) :
    (wording.ledBy side).HasWords :=
  ⟨hwords.amount, hwords.currency, hwords.debitId, hwords.creditId, hwords.date⟩

/-- An instruction that is written out is spelled by its words. -/
theorem Wording.HasWords.isSpelled_text {wording : Wording} (hwords : wording.HasWords) :
    wording.IsSpelled (Text.words wording.text) := by
  rw [wording.words_text hwords]
  exact wording.isSpelled_words

/-- Written out as a debit and as a credit, an instruction has the same response but for the
direction, which is that of the form or is left out of both responses. -/
theorem response_text_debit_credit {wording : Wording} (hwords : wording.HasWords)
    (accounts : List Account) (today : Calendar.Date) :
    (answerText accounts today (wording.ledBy .credit).text).response =
      { (answerText accounts today (wording.ledBy .debit).text).response with
        direction :=
          (answerText accounts today (wording.ledBy .credit).text).response.direction } ∧
    ((answerText accounts today (wording.ledBy .debit).text).response.direction = some .debit ∧
        (answerText accounts today (wording.ledBy .credit).text).response.direction = some .credit ∨
      (answerText accounts today (wording.ledBy .debit).text).response.direction = none ∧
        (answerText accounts today (wording.ledBy .credit).text).response.direction = none) := by
  have hdebit := (hwords.ledBy .debit).isSpelled_text
  have hcredit := (hwords.ledBy .credit).isSpelled_text
  have hresponse : (answerText accounts today (wording.ledBy .credit).text).response =
      (answerText accounts today (wording.ledBy .debit).text).response.ledBy .credit :=
    response_of_isSpelled_ledBy hdebit hcredit accounts today
  rw [hresponse]
  refine ⟨ledBy_eq_with_direction _ _, ?_⟩
  rcases direction_of_isSpelled hdebit accounts today with hside | hnone
  · refine Or.inl ⟨hside, ?_⟩
    rw [Response.ledBy, hside]
    rfl
  · refine Or.inr ⟨hnone, ?_⟩
    rw [Response.ledBy, hnone]
    rfl

/-- A transfer between accounts that are called like keywords. -/
def keywordTransfer : Wording :=
  ⟨.debit, "+030x", "gbp", "FOR", "on", some "2025-13-01"⟩

/-- Both forms are rejected for the date, and the credit repeats what the debit does. -/
theorem response_text_keywordTransfer :
    keywordTransfer.HasWords ∧
      (answerText [⟨"on", 1, "gbp"⟩, ⟨"FOR", 50, "GBP"⟩] midJune
          (keywordTransfer.ledBy .debit).text).response.outcome = .rejected .badDate ∧
      (answerText [⟨"on", 1, "gbp"⟩, ⟨"FOR", 50, "GBP"⟩] midJune
          (keywordTransfer.ledBy .credit).text).response =
        { (answerText [⟨"on", 1, "gbp"⟩, ⟨"FOR", 50, "GBP"⟩] midJune
            (keywordTransfer.ledBy .debit).text).response with direction := some .credit } := by
  have hwords : keywordTransfer.HasWords :=
    ⟨by decide +kernel, by decide +kernel, by decide +kernel, by decide +kernel, by decide +kernel⟩
  have hdirection : (answerText [⟨"on", 1, "gbp"⟩, ⟨"FOR", 50, "GBP"⟩] midJune
      (keywordTransfer.ledBy .credit).text).response.direction = some .credit := by
    decide +kernel
  rcases response_text_debit_credit hwords [⟨"on", 1, "gbp"⟩, ⟨"FOR", 50, "GBP"⟩] midJune with
    ⟨hresponse, _⟩
  rw [hdirection] at hresponse
  exact ⟨hwords, by decide +kernel, hresponse⟩

end FundsTransfer
