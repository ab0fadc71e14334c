import FundsTransfer.Proofs.Acceptance
import FundsTransfer.Proofs.Verdict
import FundsTransfer.Proofs.Views

/-!
# What a response repeats

A response to an unreadable instruction repeats nothing of it, and every other response repeats all
that was read.  The code of the response tells which of its parts may be missing then.

Main definitions:

- `Response.RepeatsNothing`: a rejection that states its reason and nothing else.
- `Response.Repeats`: a response that repeats a reading in which only the amount and the date may be
  missing.
- `Response.FitsCode`: a response in which the amount and the date are missing as its code says.

Main results:

- Theorem `repeats_of_echo?`: an instruction in full form is repeated as a whole.
- Theorem `fitsCode_of_rejected`: the breach that counts tells what could not be read.
- Theorem `repeatsNothing_xor_repeats`: every response is of exactly one of the two kinds.
-/

namespace FundsTransfer

/-! ## Two kinds of responses -/

/-- A rejection that states its reason and nothing else. -/
structure Response.RepeatsNothing (response : Response) : Prop where
  status_eq : response.outcome.status = "failed"
  direction_eq : response.direction = none
  amount_eq : response.amount = none
  currency_eq : response.currency = none
  debitId_eq : response.debitId = none
  creditId_eq : response.creditId = none
  executeBy_eq : response.executeBy = none
  views_eq : response.views = []

/-- The response repeats a reading, in which only the amount and the date may be missing. -/
structure Response.Repeats (response : Response) (reading : Reading) : Prop where
  exists_direction : ∃ side, reading.heading = some (.side side) ∧ response.direction = some side
  amount_eq : response.amount = reading.amount
  currency_eq : response.currency = reading.currency
  currency_ne_none : response.currency ≠ none
  debitId_eq : response.debitId = reading.debitId
  debitId_ne_none : response.debitId ≠ none
  creditId_eq : response.creditId = reading.creditId
  creditId_ne_none : response.creditId ≠ none
  executeBy_eq : response.executeBy = reading.executeBy

/-- The code of a response tells of its status, its amount and its date: the amount is missing only
from a rejection for the amount and positive otherwise, a bad date is not repeated, and an instruction
that is held has one. -/
structure Response.FitsCode (response : Response) : Prop where
  status_eq_failed_iff :
    response.outcome.status = "failed" ↔ response.outcome.code ∉ ["AP00", "AP02"]
  amount_eq_none_iff : response.amount = none ↔ response.outcome.code = "AM01"
  amount_pos : ∀ amount, response.amount = some amount → 0 < amount
  executeBy_eq_none : response.outcome.code = "DT01" → response.executeBy = none
  executeBy_ne_none : response.outcome.code = "AP02" → response.executeBy ≠ none

/-! ## Codes -/

namespace Code

/-- The kinds of breaches in the catalogue have different texts. -/
theorem eq_of_text_eq {code other : Code} (hcode : code ∈ catalogue) (hother : other ∈ catalogue)
    (htext : code.text = other.text) : code = other := by
  rw [← ofText_text hcode, htext, ofText_text hother]

/-- No kind of breach in the catalogue has the code of an instruction that is executed or held. -/
theorem text_notMem_of_mem_catalogue :
    ∀ code ∈ catalogue, code.text ∉ ["AP00", "AP02"] := by
  decide

end Code

/-! ## Unreadable instructions -/

/-- A response that repeats nothing does so as a rejection. -/
theorem repeatsNothing_blank (breach : Breach) : (Response.blank breach).RepeatsNothing where
  status_eq := rfl
  direction_eq := rfl
  amount_eq := rfl
  currency_eq := rfl
  debitId_eq := rfl
  creditId_eq := rfl
  executeBy_eq := rfl
  views_eq := rfl

/-! ## Readable instructions -/

/-- An instruction in full form is repeated as a whole. -/
theorem repeats_of_echo? {wording : Wording} {amount : Option Nat} {outcome : Outcome}
    {views : List View} {response : Response}
    (hecho : Response.echo? (wording.reading amount) outcome views = .ok response) :
    response.Repeats (wording.reading amount) := by
  obtain ⟨direction, hdirection, rfl⟩ := eq_of_echo?_eq_ok hecho
  cases hdirection
  exact
    { exists_direction := ⟨wording.lead, rfl, rfl⟩
      amount_eq := rfl
      currency_eq := rfl
      currency_ne_none := Option.some_ne_none _
      debitId_eq := rfl
      debitId_ne_none := Option.some_ne_none _
      creditId_eq := rfl
      creditId_ne_none := Option.some_ne_none _
      executeBy_eq := rfl }

/-- A date that is none is not read. -/
theorem executeBy_reading_eq_none {wording : Wording} (hbad : wording.hasBadDate = true)
    (amount : Option Nat) : (wording.reading amount).executeBy = none := by
  obtain ⟨date, hdate, hformed⟩ := (Option.any_eq_true _ _).1 hbad
  simp only [Bool.not_eq_true'] at hformed
  rw [Wording.reading, hdate, Option.filter_some_neg (by simp [hformed])]

/-- An instruction that is held has a date. -/
theorem executeBy_ne_none_of_isDeferred {reading : Reading} {today : Calendar.Date}
    (hdeferred : isDeferred reading today = .ok true) : reading.executeBy ≠ none := by
  intro hnone
  rw [isDeferred, hnone] at hdeferred
  cases hdeferred

section Rejected

variable {accounts : List Account} {text : String} {wording : Wording} {amount : Option Nat}
  {breach : Breach}

/-- The missing amount is what counts against an instruction if and only if it is missing. -/
theorem amount_eq_none_iff_of_primary? (hspelled : wording.IsSpelled (Text.words text))
    (hprimary : primary? (examine accounts (wording.reading amount)).breaches = some breach) :
    amount = none ↔ breach.code = .badAmount := by
  constructor
  · rintro rfl
    obtain ⟨hdebit, hcredit, hcurrency⟩ := wording.ne_empty_of_isSpelled hspelled
    rw [primary?_examine_reading hdebit hcredit hcurrency] at hprimary
    cases hprimary
    rfl
  · intro hcode
    rcases cases_of_mem_examine_reading (mem_of_primary?_eq_some hprimary) with
      ⟨hamount, _⟩ | ⟨_, rfl⟩ | hrule
    · exact hamount
    · cases hcode
    · rw [hcode] at hrule
      exact absurd hrule (by decide)

/-- A bad date counts against an instruction only if it has one. -/
theorem hasBadDate_of_primary?
    (hprimary : primary? (examine accounts (wording.reading amount)).breaches = some breach)
    (hcode : breach.code = .badDate) : wording.hasBadDate = true := by
  rcases cases_of_mem_examine_reading (mem_of_primary?_eq_some hprimary) with
    ⟨_, rfl⟩ | ⟨hdate, _⟩ | hrule
  · cases hcode
  · exact hdate
  · rw [hcode] at hrule
    exact absurd hrule (by decide)

/-- The breach that counts against an instruction in full form tells what could not be read of it. -/
theorem fitsCode_of_rejected {response : Response}
    (hread : Reading.ofText text = .ok (wording.reading amount))
    (hspelled : wording.IsSpelled (Text.words text))
    (hprimary : primary? (examine accounts (wording.reading amount)).breaches = some breach)
    (hrepeats : response.Repeats (wording.reading amount))
    (houtcome : response.outcome = .rejected breach) : response.FitsCode := by
  have hknown : breach.code ∈ Code.catalogue :=
    mem_catalogue_of_mem_examine hread (mem_of_primary?_eq_some hprimary)
  have hfailed := Code.text_notMem_of_mem_catalogue _ hknown
  -- The code of the response is the text of the breach, from which its kind is known.
  have hcode : ∀ {code : Code}, code ∈ Code.catalogue →
      (response.outcome.code = code.text ↔ breach.code = code) := by
    intro code hmem
    rw [houtcome]
    exact ⟨Code.eq_of_text_eq hknown hmem, congrArg Code.text⟩
  refine ⟨?_, ?_, ?_, ?_, ?_⟩
  · rw [houtcome]
    exact iff_of_true rfl hfailed
  · change _ ↔ response.outcome.code = Code.badAmount.text
    rw [hcode (by decide), ← amount_eq_none_iff_of_primary? hspelled hprimary, hrepeats.amount_eq]
    exact Option.map_eq_none_iff
  · intro n hn
    exact amount_pos_of_ofText hread (hrepeats.amount_eq ▸ hn)
  · intro hbadDate
    have hkind : breach.code = .badDate := (hcode (by decide)).1 hbadDate
    rw [hrepeats.executeBy_eq, executeBy_reading_eq_none (hasBadDate_of_primary? hprimary hkind)]
  · intro hpending
    rw [houtcome, Outcome.code] at hpending
    rw [hpending] at hfailed
    exact absurd hfailed (by decide)

end Rejected

section Cleared

variable {accounts : List Account} {text : String} {reading : Reading} {debit credit : Account}
  {amount : Int} {response : Response} (hread : Reading.ofText text = .ok reading)
  (hcleared : Cleared accounts reading debit credit amount)
include hread hcleared

/-- An instruction against which nothing is found is repeated as a whole. -/
theorem repeats_of_cleared {outcome : Outcome} {views : List View}
    (hecho : Response.echo? reading outcome views = .ok response) : response.Repeats reading := by
  obtain ⟨wording, amount, hspelled, hamount, rfl⟩ :=
    exists_reading_of_readable hread (by simp [hcleared.readingBreaches_eq_nil])
  exact repeats_of_echo? hecho

/-- An instruction that is executed or held has an amount, and a date in the latter case. -/
theorem fitsCode_of_cleared (hrepeats : response.Repeats reading)
    (houtcome : response.outcome = .executed ∨
      response.outcome = .scheduled ∧ reading.executeBy ≠ none) : response.FitsCode := by
  have hamount : response.amount = some amount := hrepeats.amount_eq.trans hcleared.amount_eq
  have hpos : 0 < amount := amount_pos_of_ofText hread hcleared.amount_eq
  rcases houtcome with hexecuted | ⟨hscheduled, hdated⟩
  · refine ⟨?_, ?_, ?_, ?_, ?_⟩ <;> simp [hexecuted, Outcome.status, Outcome.code, hamount, hpos]
  · rw [← hrepeats.executeBy_eq] at hdated
    refine ⟨?_, ?_, ?_, ?_, ?_⟩ <;>
      simp [hscheduled, Outcome.status, Outcome.code, hamount, hpos, hdated]

end Cleared

/-! ## All responses -/

/-- Every response repeats nothing and has the code of an unreadable instruction, or it has another
code and repeats a reading as that code says. -/
theorem repeatsNothing_or_repeats {accounts : List Account} {today : Calendar.Date} {text : String}
    {response : Response} (hanswers : Answers accounts today (.str text) response) :
    (response.outcome.code ∈ ["SY01", "SY02", "SY03"] ∧ response.RepeatsNothing) ∨
      (response.outcome.code ∉ ["SY01", "SY02", "SY03"] ∧ response.FitsCode ∧
        ∃ reading, Reading.ofText text = .ok reading ∧ response.Repeats reading) := by
  cases hanswers with
  | blank hunreadable =>
      exact Or.inl ⟨Code.text_mem_of_isUnreadable hunreadable, repeatsNothing_blank _⟩
  | rejected hread hfit hprimary hreadable hecho =>
      obtain ⟨wording, amount, hspelled, hamount, rfl⟩ :=
        exists_reading_of_primary? hread hprimary hreadable
      have hrepeats := repeats_of_echo? hecho
      have houtcome := outcome_of_echo? hecho
      have hfits := fitsCode_of_rejected hread hspelled hprimary hrepeats houtcome
      have hknown := mem_catalogue_of_mem_examine hread (mem_of_primary?_eq_some hprimary)
      refine Or.inr ⟨?_, hfits, _, hread, hrepeats⟩
      rw [houtcome]
      exact text_notMem_of_readable hknown hreadable
  | scheduled hread hcleared hdeferred hecho =>
      have hrepeats := repeats_of_cleared hread hcleared hecho
      have houtcome := outcome_of_echo? hecho
      have hdated := executeBy_ne_none_of_isDeferred hdeferred
      have hfits := fitsCode_of_cleared hread hcleared hrepeats (Or.inr ⟨houtcome, hdated⟩)
      exact Or.inr ⟨by rw [houtcome]; decide, hfits, _, hread, hrepeats⟩
  | executed hread hcleared hdeferred hecho =>
      have hrepeats := repeats_of_cleared hread hcleared hecho
      have houtcome := outcome_of_echo? hecho
      have hfits := fitsCode_of_cleared hread hcleared hrepeats (Or.inl houtcome)
      exact Or.inr ⟨by rw [houtcome]; decide, hfits, _, hread, hrepeats⟩

/-- Every response to a text is of exactly one of two kinds.  It has the code of an unreadable
instruction, repeats nothing and shows no account; or it has another code and repeats what was read
of the text, from which only the amount and the date may be missing, and they are as the code
says. -/
theorem repeatsNothing_xor_repeats (accounts : List Account) (today : Calendar.Date)
    (text : String) :
    Xor
      ((answerText accounts today text).response.outcome.code ∈ ["SY01", "SY02", "SY03"] ∧
        (answerText accounts today text).response.RepeatsNothing)
      ((answerText accounts today text).response.outcome.code ∉ ["SY01", "SY02", "SY03"] ∧
        (answerText accounts today text).response.FitsCode ∧
        ∃ reading, Reading.ofText text = .ok reading ∧
          (answerText accounts today text).response.Repeats reading) := by
  have hanswers : Answers accounts today (.str text) (answerText accounts today text).response :=
    answers_answer accounts today (.str text)
  rcases repeatsNothing_or_repeats hanswers with hnothing | hrepeats
  · exact Or.inl ⟨hnothing, fun hother => hother.1 hnothing.1⟩
  · exact Or.inr ⟨hrepeats, fun hother => hrepeats.1 hother.1⟩

end FundsTransfer
