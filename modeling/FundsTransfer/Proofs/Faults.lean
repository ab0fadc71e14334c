import FundsTransfer.Proofs.Acceptance
import FundsTransfer.Proofs.Amount
import FundsTransfer.Proofs.Verdict
import FundsTransfer.Proofs.Views

/-!
# Which instructions cannot be handled

There is one kind of text at which the handling of an instruction stops with a fault: the word in the
place of the amount opens with a numeral that is too long to be read.  Everything that comes after
the amount has an outcome, whatever the other words are, unless a message about it has to state a
balance that is too long to be written.

Main definitions:

- `StatesOverlongAmount`: some words have an overlong numeral in the place of the amount.
- `MeetsUnwritableBalance`: a text names an account whose balance is too long for a message.

Main results:

- Theorem `exists_advance_eq_ok`: behind the amount every word can be read.
- Theorem `exists_result_of_figuresFit`: what has been read is carried out or rejected.
- Theorem `attempt_cases`: the three ways in which an attempt may end.
- Theorem `attempt_faults_iff_statesOverlongAmount`: the instructions that cannot be handled.
-/

namespace FundsTransfer

/-! ## Words that can be read -/

/-- A word in any place but that of the amount can be read. -/
theorem exists_read_eq_ok {stage : Stage} (hstage : stage ≠ .direction) (word : String)
    (reading : Reading) : ∃ progress, stage.read word reading = .ok progress := by
  unfold Stage.read
  split
  · split
    · exact ⟨_, rfl⟩
    · exact ⟨_, rfl⟩
  · rename_i hslot
    cases stage with
    | direction => exact absurd rfl hstage
    | _ => cases hslot
  · exact ⟨_, rfl⟩
  · split
    · exact ⟨_, rfl⟩
    · exact ⟨_, rfl⟩
  · exact ⟨_, rfl⟩
  · exact ⟨_, rfl⟩
  · exact ⟨_, rfl⟩

/-- Behind the amount all words can be read. -/
theorem exists_advance_eq_ok {stage : Stage} (hstage : 2 ≤ stage.position) (reading : Reading)
    (words : List String) : ∃ progress, advance stage reading words = .ok progress := by
  induction words generalizing stage reading with
  | nil => exact ⟨_, advance_nil stage reading⟩
  | cons word rest ih =>
      have hbehind : stage ≠ .direction := by
        rintro rfl
        exact absurd hstage (by decide)
      rcases exists_read_eq_ok hbehind word reading with ⟨⟨next, later⟩, hread⟩
      cases next with
      | none => exact ⟨⟨none, later⟩, by simp only [advance, hread]⟩
      | some next =>
          have hposition : 2 ≤ next.position := by
            rw [position_of_read hread rfl]
            exact Nat.le_succ_of_le hstage
          rcases ih hposition later with ⟨progress, hrest⟩
          exact ⟨progress, by simp only [advance, hread, hrest]⟩

/-- Some words open with the keyword of a direction, and the word behind it is overlong. -/
def StatesOverlongAmount (words : List String) : Prop :=
  ∃ direction amount rest, words = direction :: amount :: rest ∧
    Text.upper direction ∈ ["DEBIT", "CREDIT"] ∧ IsOverlong amount

/-- What a first word comes to: it opens an instruction, or it ends the reading. -/
theorem advance_start_cons (reading : Reading) (word : String) (rest : List String) :
    (∃ side : Direction, Text.upper word = side.keyword ∧
      advance .start reading (word :: rest) =
        advance .direction { reading with heading := some (.side side) } rest) ∨
    (Text.upper word ∉ ["DEBIT", "CREDIT"] ∧
      ∃ progress, advance .start reading (word :: rest) = .ok progress) := by
  cases hside : Direction.ofKeyword? (Text.upper word) with
  | some side =>
      have hword := Direction.ofKeyword?_eq_some_iff.1 hside
      exact Or.inl ⟨side, hword, advance_cons_direction hword⟩
  | none =>
      have hword := Direction.ofKeyword?_eq_none_iff.1 hside
      refine Or.inr ⟨by simpa using hword, ⟨none, reading.report .keywordMissing⟩, ?_⟩
      simp only [advance, Stage.read, Stage.slot, hside, Progress.halt]

/-- Words that have been read up to their end come to a reading. -/
theorem ofWords_eq_error_iff_advance {words : List String} {fault : Fault} :
    Reading.ofWords words = .error fault ↔ advance .start {} words = .error fault := by
  rw [Reading.ofWords, readFrom]
  cases advance .start {} words with
  | ok progress => simp [Except.map]
  | error other => simp [Except.map]

/-- Words behind the keyword of a direction cannot be read exactly if the first of them cannot be read
as an amount. -/
theorem advance_direction_eq_error_iff {reading : Reading} {words : List String} {fault : Fault} :
    advance .direction reading words = .error fault ↔
      ∃ amount rest, words = amount :: rest ∧ readAmount amount = .error fault := by
  cases words with
  | nil => simp
  | cons amount rest =>
      have hbehind : ∀ stated, ∃ progress,
          advance .amount (reading.withAmount stated) rest = .ok progress := by
        intro stated
        exact exists_advance_eq_ok (by decide) _ rest
      rw [advance_cons_amount]
      cases hamount : readAmount amount with
      | error other => simp [Except.bind, hamount]
      | ok stated =>
          rcases hbehind stated with ⟨progress, hprogress⟩
          simp [Except.bind, hprogress, hamount]

/-- Some words cannot be read exactly if they open with the keyword of a direction and the word behind
it cannot be read as an amount. -/
theorem ofWords_eq_error_iff {words : List String} {fault : Fault} :
    Reading.ofWords words = .error fault ↔
      ∃ direction amount rest, words = direction :: amount :: rest ∧
        Text.upper direction ∈ ["DEBIT", "CREDIT"] ∧ readAmount amount = .error fault := by
  rw [ofWords_eq_error_iff_advance]
  cases words with
  | nil => simp
  | cons direction rest =>
      rcases advance_start_cons {} direction rest with
        ⟨side, hside, hopens⟩ | ⟨hword, progress, hends⟩
      · have hkeyword : Text.upper direction ∈ ["DEBIT", "CREDIT"] := by
          rw [hside]
          cases side <;> simp [Direction.keyword]
        rw [hopens, advance_direction_eq_error_iff]
        constructor
        · rintro ⟨amount, rest, rfl, hamount⟩
          exact ⟨direction, amount, rest, rfl, hkeyword, hamount⟩
        · rintro ⟨direction, amount, rest, hwords, _, hamount⟩
          cases hwords
          exact ⟨amount, rest, rfl, hamount⟩
      · rw [hends]
        constructor
        · intro hfault
          cases hfault
        · rintro ⟨direction, amount, rest, hwords, hdirection, _⟩
          cases hwords
          exact absurd hdirection hword

/-- A text cannot be read exactly if it states an overlong amount. -/
theorem exists_ofText_eq_error_iff {text : String} :
    (∃ fault, Reading.ofText text = .error fault) ↔ StatesOverlongAmount (Text.words text) := by
  constructor
  · rintro ⟨fault, hfault⟩
    rcases ofWords_eq_error_iff.1 hfault with
      ⟨direction, amount, rest, hwords, hdirection, hamount⟩
    exact ⟨direction, amount, rest, hwords, hdirection,
      exists_readAmount_eq_error_iff.1 ⟨fault, hamount⟩⟩
  · rintro ⟨direction, amount, rest, hwords, hdirection, hoverlong⟩
    rcases exists_readAmount_eq_error_iff.2 hoverlong with ⟨fault, hamount⟩
    exact ⟨fault, ofWords_eq_error_iff.2 ⟨direction, amount, rest, hwords, hdirection, hamount⟩⟩

/-- All that is ever wrong with a text that cannot be read is the length of a numeral. -/
theorem exists_eq_numeralTooLong {text : String} {fault : Fault}
    (hfault : Reading.ofText text = .error fault) :
    ∃ digits, Numeral.digitLimit < digits ∧ fault = .numeralTooLong digits := by
  rcases ofWords_eq_error_iff.1 hfault with ⟨direction, amount, rest, _, _, hamount⟩
  rcases readAmount_eq_error_iff.1 hamount with ⟨sign, digits, _, hlong, hkind⟩
  exact ⟨digits.length, hlong, hkind⟩

/-! ## Instructions that can be handled -/

/-- A heading that was read is the side of a transfer. -/
def Reading.HasProperHeading (reading : Reading) : Prop :=
  ∀ heading, reading.heading = some heading → ∃ side, heading = .side side

/-- Whatever a word does, the heading stays one of the two sides. -/
theorem hasProperHeading_of_change {word : String} {reading later : Reading}
    (hproper : reading.HasProperHeading) (hchange : reading.Change word later) :
    later.HasProperHeading := by
  intro heading hheading
  cases hchange with
  | @heading side hside =>
      cases hheading
      exact ⟨side, rfl⟩
  | account side => cases side <;> exact hproper heading hheading
  | _ => exact hproper heading hheading

/-- A reading of an instruction can be repeated. -/
theorem exists_echo?_eq_ok {text : String} {reading : Reading}
    (hread : Reading.ofText text = .ok reading) (outcome : Outcome) (views : List View) :
    ∃ response, Response.echo? reading outcome views = .ok response := by
  have hempty : Reading.HasProperHeading {} := by
    intro heading hnone
    cases hnone
  have hproper : reading.HasProperHeading :=
    invariant_of_ofText (fun _ _ _ => hasProperHeading_of_change) hempty hread
  have hdirection : ∃ direction, reading.direction? = .ok direction := by
    unfold Reading.direction?
    split
    · exact ⟨_, rfl⟩
    · exact ⟨_, rfl⟩
    · rename_i hheading
      obtain ⟨side, hside⟩ := hproper _ hheading
      cases hside
  rcases hdirection with ⟨direction, hdirection⟩
  exact ⟨_, by rw [Response.echo?, hdirection]; rfl⟩

/-- An instruction with a breach can be rejected. -/
theorem exists_reject_eq_ok {accounts : List Account} {text : String} {reading : Reading}
    {breach : Breach} (hread : Reading.ofText text = .ok reading)
    (hbreach : breach ∈ (examine accounts reading).breaches) :
    ∃ response, reject accounts reading breach = .ok response := by
  have hknown : breach.code.isKnown = true :=
    Code.isKnown_of_mem (mem_catalogue_of_mem_examine hread hbreach)
  cases hunreadable : breach.code.isUnreadable with
  | true => exact ⟨Response.blank breach, by rw [reject, if_pos hunreadable]⟩
  | false =>
      rw [reject_eq_echo? hunreadable hknown]
      exact exists_echo?_eq_ok hread _ _

/-- An instruction without a breach can be carried out: it names two accounts and an amount, and its
date lies within the calendar. -/
theorem exists_carryOut_eq_ok {accounts : List Account} {text : String} {reading : Reading}
    (hread : Reading.ofText text = .ok reading)
    (hnone : (examine accounts reading).breaches = []) (today : Calendar.Date) :
    ∃ response, carryOut accounts reading (Account.find? accounts reading.debitId)
      (Account.find? accounts reading.creditId) today = .ok response := by
  rcases exists_objection?_eq_none hread hnone with ⟨wording, amount, _, _, rfl, hobjection⟩
  rcases exists_carryOut_reading hobjection today with ⟨response, hresponse, _⟩
  exact ⟨response, hresponse⟩

/-- Every instruction that has been read is carried out or rejected if the figures in the messages
fit. -/
theorem exists_result_of_figuresFit {accounts : List Account} {text : String} {reading : Reading}
    (hread : Reading.ofText text = .ok reading) (hfit : FiguresFit accounts reading)
    (today : Calendar.Date) :
    ∃ response, (attemptReading accounts today reading).result = .ok response := by
  cases hprimary : primary? (examine accounts reading).breaches with
  | some breach =>
      rw [result_attemptReading_of_some hfit hprimary]
      exact exists_reject_eq_ok hread (mem_of_primary?_eq_some hprimary)
  | none =>
      rw [result_attemptReading_of_none hprimary]
      exact exists_carryOut_eq_ok hread (primary?_eq_none_iff.1 hprimary) today

/-! ## Instructions that cannot be handled -/

/-- A text charges an amount to an account that does not cover it, and the balance of that account has
too many digits to be written. -/
def MeetsUnwritableBalance (accounts : List Account) (text : String) : Prop :=
  ∃ reading, Reading.ofText text = .ok reading ∧ HasUnwritableBalance accounts reading

/-- Among accounts whose balances can be written there is none that cannot. -/
theorem not_meetsUnwritableBalance_of_isShort {accounts : List Account} {text : String}
    (hbalances : ∀ account ∈ accounts, Numeral.IsShort account.balance.natAbs) :
    ¬ MeetsUnwritableBalance accounts text := by
  rintro ⟨reading, -, hlong⟩
  exact not_hasUnwritableBalance_of_isShort hbalances hlong

/-- No attempt at what was found out logs that the instruction could not be handled. -/
theorem broken_notMem_attemptFound (accounts : List Account) (today : Calendar.Date)
    (reading : Reading) (found : Findings) (instruction : Json) :
    .broken instruction ∉ (attemptFound accounts today reading found).events := by
  unfold attemptFound
  split
  · simp
  · unfold Attempt.ofExecution
    split <;> simp

/-- How an attempt at a text may end.  A text that cannot be read and one that meets a balance that
cannot be written end it with a fault, before anything is logged.  From any other text it comes to a
response, and does not log a fault. -/
theorem attempt_cases (accounts : List Account) (today : Calendar.Date) (text : String) :
    (∃ fault, Reading.ofText text = .error fault ∧
      attempt accounts today text = ⟨[], .error fault⟩) ∨
    (MeetsUnwritableBalance accounts text ∧
      attempt accounts today text = ⟨[], .error .unwritableInteger⟩) ∨
    ((∃ reading, Reading.ofText text = .ok reading) ∧ ¬ MeetsUnwritableBalance accounts text ∧
      (∃ response, (attempt accounts today text).result = .ok response) ∧
      ∀ instruction, .broken instruction ∉ (attempt accounts today text).events) := by
  unfold attempt MeetsUnwritableBalance
  cases hread : Reading.ofText text with
  | error fault => exact Or.inl ⟨fault, rfl, rfl⟩
  | ok reading =>
      have hunfit : ¬ FiguresFit accounts reading ↔ HasUnwritableBalance accounts reading :=
        not_figuresFit_iff_hasUnwritableBalance (isShort_of_ofText hread)
      by_cases hfit : FiguresFit accounts reading
      · refine Or.inr (Or.inr ⟨⟨reading, rfl⟩, ?_, ?_, ?_⟩)
        · rintro ⟨other, hother, hlong⟩
          cases hother
          exact hunfit.2 hlong hfit
        · exact exists_result_of_figuresFit hread hfit today
        · simp only [attemptReading_of_figuresFit hfit]
          exact broken_notMem_attemptFound accounts today reading _
      · exact Or.inr (Or.inl ⟨⟨reading, rfl, hunfit.1 hfit⟩,
          attemptReading_of_not_figuresFit hfit⟩)

/-- The instructions that cannot be handled.  On whatever accounts and whatever day, an attempt at a
text ends in a fault exactly if the text states an overlong amount or meets a balance that cannot be
written, and exactly then the log says so.  The fault is the length of the numeral or that of the
balance and never another, and the answer repeats nothing.  Among accounts whose balances can be
written, the overlong amounts are all that there is. -/
theorem attempt_faults_iff_statesOverlongAmount (accounts : List Account) (today : Calendar.Date)
    (text : String) :
    ((∃ fault, (attempt accounts today text).result = .error fault) ↔
      StatesOverlongAmount (Text.words text) ∨ MeetsUnwritableBalance accounts text) ∧
    ((∃ instruction, .broken instruction ∈ (answerText accounts today text).events) ↔
      StatesOverlongAmount (Text.words text) ∨ MeetsUnwritableBalance accounts text) ∧
    (∀ fault, (attempt accounts today text).result = .error fault →
      (StatesOverlongAmount (Text.words text) ∧
          (∃ digits, Numeral.digitLimit < digits ∧ fault = .numeralTooLong digits) ∨
        MeetsUnwritableBalance accounts text ∧ fault = .unwritableInteger) ∧
      answerText accounts today text =
        ⟨Response.blank .malformed,
          [.received (.str text) accounts.length, .broken (.str text)]⟩) ∧
    ((∀ account ∈ accounts, Numeral.IsShort account.balance.natAbs) →
      ¬ MeetsUnwritableBalance accounts text) := by
  have hoverlong := @exists_ofText_eq_error_iff text
  rw [← hoverlong]
  rcases attempt_cases accounts today text with ⟨fault, hread, htried⟩ | ⟨hmeets, htried⟩ |
    ⟨⟨reading, hread⟩, hnot, ⟨response, hresult⟩, hlog⟩
  · refine ⟨?_, ?_, ?_, not_meetsUnwritableBalance_of_isShort⟩
    · simp [htried, hread]
    · simp [answerText, htried, hread, Attempt.conclude]
    · intro other hother
      rw [htried] at hother
      cases hother
      exact ⟨Or.inl ⟨⟨fault, hread⟩, exists_eq_numeralTooLong hread⟩, by rw [answerText, htried]; rfl⟩
  · refine ⟨?_, ?_, ?_, not_meetsUnwritableBalance_of_isShort⟩
    · simp [htried, hmeets]
    · simp [answerText, htried, hmeets, Attempt.conclude]
    · intro other hother
      rw [htried] at hother
      cases hother
      exact ⟨Or.inr ⟨hmeets, rfl⟩, by rw [answerText, htried]; rfl⟩
  · refine ⟨?_, ?_, ?_, not_meetsUnwritableBalance_of_isShort⟩
    · simp [hresult, hread, hnot]
    · simp [answerText, hread, hnot, Attempt.conclude, hresult, hlog]
    · intro fault hfault
      rw [hresult] at hfault
      cases hfault

end FundsTransfer
