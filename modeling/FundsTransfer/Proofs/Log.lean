import FundsTransfer.Proofs.Faults
import FundsTransfer.Proofs.Settlement

/-!
# What the log says of an answer

A rejection is logged before there is a response to it, and a settlement only afterwards.  Nothing
that follows a rejection can fail, though, so no entry is ever belied: the log of a text has two
entries, and the second one says of the response what the response says of itself.

Main definitions:

- `Event.TellsOfArrival`, `Event.TellsOfSettlement`, `Event.TellsOfRejection`, `Event.TellsOfFault`:
  what an entry says, by its name and its details.
- `ListsCodes`: the codes of a rejection, the gravest one among them and those of the wording first.
- `Event.Concludes`: the last entry of a log agrees with the response.

Main results:

- Theorem `tellsOfRejection_failed`: what is logged of a rejection agrees with the response.
- Theorem `exists_log_of_figuresFit`: the log of a text that can be read and examined.
- Theorem `log_accords_with_response`: the log of every text agrees with the response to it.
-/

namespace FundsTransfer

/-! ## What an entry says -/

/-- Codes of breaches are listed for a rejection: the code of the response is one of them, none of
them stands for a graver breach, and the codes of the wording come first, in their order. -/
structure ListsCodes (reading : Reading) (code : String) (codes : List String) : Prop where
  code_mem : code ∈ codes
  precedence_le : ∀ other ∈ codes,
    (Code.ofText code).precedence ≤ (Code.ofText other).precedence
  wording_first : reading.breaches.map (·.code.text) <+: codes

namespace Event

/-- An entry says which text came in, and with how many accounts. -/
structure TellsOfArrival (event : Event) (text : String) (accounts : Nat) : Prop where
  name_eq : event.name = "instruction.received"
  details_eq : event.details = .obj [("instruction", .str text), ("accounts", .int accounts)]

/-- An entry says of an instruction that was executed or held what the response says of it. -/
structure TellsOfSettlement (event : Event) (response : Response) : Prop where
  name_eq : event.name = "instruction.settled"
  details_eq : event.details =
    .obj [("status", .str response.outcome.status),
      ("debit_account", .ofText? response.debitId),
      ("credit_account", .ofText? response.creditId),
      ("amount", .ofInt? response.amount)]

/-- An entry says why an instruction was rejected: it has the code of the response, and lists the codes
of all breaches. -/
structure TellsOfRejection (event : Event) (response : Response) (reading : Reading) : Prop where
  name_eq : event.name = "instruction.failed"
  exists_codes : ∃ codes, ListsCodes reading response.outcome.code codes ∧
    event.details =
      .obj [("status_code", .str response.outcome.code), ("violations", .arr (codes.map .str))]

/-- An entry says that a text could not be handled. -/
structure TellsOfFault (event : Event) (text : String) : Prop where
  name_eq : event.name = "instruction.error"
  details_eq : event.details = .obj [("instruction", .str text)]

end Event

/-! ## Rejections and settlements -/

section Read

variable {accounts : List Account} {today : Calendar.Date} {text : String} {reading : Reading}
  {response : Response}

/-- A rejection states the breach that it is for. -/
theorem outcome_of_reject {breach : Breach} (hreject : reject accounts reading breach = .ok response) :
    response.outcome = .rejected breach := by
  unfold reject at hreject
  split at hreject
  · cases hreject
    rfl
  · split at hreject
    · exact outcome_of_echo? hreject
    · cases hreject

/-- An instruction that is carried out is held or executed. -/
theorem status_of_carryOut {debit credit : Option Account}
    (hcarried : carryOut accounts reading debit credit today = .ok response) :
    response.outcome.status ∈ ["successful", "pending"] := by
  unfold carryOut at hcarried
  split at hcarried
  · unfold transfer at hcarried
    split at hcarried
    · rw [outcome_of_echo? hcarried]
      decide
    · rw [outcome_of_echo? hcarried]
      decide
    · cases hcarried
  · cases hcarried

/-- The breaches that were found are listed by their codes, and the one that counts has the code of the
response. -/
theorem listsCodes_examine {breach : Breach} (hread : Reading.ofText text = .ok reading)
    (hprimary : primary? (examine accounts reading).breaches = some breach) :
    ListsCodes reading breach.code.text
      ((examine accounts reading).breaches.map (·.code.text)) where
  code_mem := List.mem_map_of_mem (mem_of_primary?_eq_some hprimary)
  precedence_le := by
    intro other hother
    obtain ⟨later, hlater, rfl⟩ := List.mem_map.1 hother
    have hknown := mem_catalogue_of_mem_examine hread (mem_of_primary?_eq_some hprimary)
    rw [Code.ofText_text hknown, Code.ofText_text (mem_catalogue_of_mem_examine hread hlater)]
    exact precedence_le_of_primary?_eq_some hprimary hlater
  wording_first := by
    have hfront : reading.breaches <+: (examine accounts reading).breaches :=
      List.prefix_append _ _
    exact hfront.map _

/-- What is logged of a rejection agrees with the response that is made of it. -/
theorem tellsOfRejection_failed {breach : Breach} (hread : Reading.ofText text = .ok reading)
    (hprimary : primary? (examine accounts reading).breaches = some breach)
    (houtcome : response.outcome = .rejected breach) :
    (Event.failed breach (examine accounts reading).breaches).TellsOfRejection response reading where
  name_eq := rfl
  exists_codes := by
    rw [houtcome]
    refine ⟨_, listsCodes_examine hread hprimary, ?_⟩
    rw [List.map_map]
    rfl

/-- The log of a text that can be read, if the figures in the messages about it fit: it tells of a
settlement if the response does, and of a rejection otherwise. -/
theorem exists_log_of_figuresFit (hread : Reading.ofText text = .ok reading)
    (hfit : FiguresFit accounts reading) (today : Calendar.Date) :
    ∃ response event, answerText accounts today text =
        ⟨response, [.received (.str text) accounts.length, event]⟩ ∧
      (event.TellsOfSettlement response ∧ response.outcome.status ∈ ["successful", "pending"] ∨
        event.TellsOfRejection response reading ∧ response.outcome.status = "failed") := by
  cases hprimary : primary? (examine accounts reading).breaches with
  | some breach =>
      -- The rejection that has been logged cannot fail any more.
      obtain ⟨response, hreject⟩ :=
        exists_reject_eq_ok hread (mem_of_primary?_eq_some hprimary)
      have houtcome := outcome_of_reject hreject
      refine ⟨response, .failed breach (examine accounts reading).breaches, ?_, Or.inr ⟨?_, ?_⟩⟩
      · simp only [answerText, attempt, hread, attemptReading_of_figuresFit hfit, attemptFound,
          hprimary, Attempt.conclude, hreject]
      · exact tellsOfRejection_failed hread hprimary houtcome
      · rw [houtcome]
        rfl
  | none =>
      obtain ⟨response, hcarried⟩ :=
        exists_carryOut_eq_ok hread (primary?_eq_none_iff.1 hprimary) today
      refine ⟨response, .settled response, ?_, Or.inl ⟨⟨rfl, rfl⟩, status_of_carryOut hcarried⟩⟩
      have hexamined : carryOut accounts reading (examine accounts reading).debit
          (examine accounts reading).credit today = .ok response := hcarried
      simp only [answerText, attempt, hread, attemptReading_of_figuresFit hfit, attemptFound,
        hprimary, Attempt.conclude, hexamined, Attempt.ofExecution]

end Read

/-! ## Every log -/

/-- An attempt that ends in a fault before anything is logged leaves a log of two entries, and the
second one tells of the fault. -/
theorem answerText_of_attempt_eq_error {accounts : List Account} {today : Calendar.Date}
    {text : String} {fault : Fault} (htried : attempt accounts today text = ⟨[], .error fault⟩) :
    answerText accounts today text =
      ⟨Response.blank .malformed, [.received (.str text) accounts.length, .broken (.str text)]⟩ := by
  rw [answerText, htried]
  rfl

/-- An entry concludes the log of a text as the response does the answer.  It tells of a settlement
exactly if the instruction is executed or held; of a fault exactly if the text cannot be read, or if it
charges an amount to an account whose balance is too long for the message that it does not cover the
amount; and of a rejection otherwise.  And it says what the response says: of a settlement its status,
its ids and its amount, of a rejection its code among those of all breaches, and of a fault
nothing. -/
structure Event.Concludes (event : Event) (accounts : List Account) (text : String)
    (response : Response) : Prop where
  settled_iff : event.name = "instruction.settled" ↔
    response.outcome.status ∈ ["successful", "pending"]
  failed_iff : event.name = "instruction.failed" ↔
    response.outcome.status = "failed" ∧ (∃ reading, Reading.ofText text = .ok reading) ∧
      ¬ MeetsUnwritableBalance accounts text
  error_iff : event.name = "instruction.error" ↔
    (∃ fault, Reading.ofText text = .error fault) ∨ MeetsUnwritableBalance accounts text
  tells : event.TellsOfSettlement response ∨
    (∃ reading, Reading.ofText text = .ok reading ∧ event.TellsOfRejection response reading) ∨
    event.TellsOfFault text ∧ response = Response.blank .malformed

/-- The entry on a fault concludes the log of a text that cannot be handled. -/
theorem concludes_broken {accounts : List Account} {text : String}
    (hfault : (∃ fault, Reading.ofText text = .error fault) ∨
      MeetsUnwritableBalance accounts text) :
    (Event.broken (.str text)).Concludes accounts text (Response.blank .malformed) where
  settled_iff := by simp [Event.name, Response.blank, Outcome.status]
  failed_iff := by
    have hnot : ¬ ((∃ reading, Reading.ofText text = .ok reading) ∧
        ¬ MeetsUnwritableBalance accounts text) := by
      rintro ⟨⟨reading, hread⟩, hhandled⟩
      rcases hfault with ⟨fault, hother⟩ | hmeets
      · cases hread.symm.trans hother
      · exact hhandled hmeets
    simp [Event.name, hnot]
  error_iff := iff_of_true rfl hfault
  tells := Or.inr (Or.inr ⟨⟨rfl, rfl⟩, rfl⟩)

/-- The entry on a settlement or a rejection concludes the log of a text that is handled. -/
theorem concludes_of_ofText {accounts : List Account} {text : String} {reading : Reading}
    {response : Response} {event : Event} (hread : Reading.ofText text = .ok reading)
    (hnot : ¬ MeetsUnwritableBalance accounts text)
    (hcases : event.TellsOfSettlement response ∧
        response.outcome.status ∈ ["successful", "pending"] ∨
      event.TellsOfRejection response reading ∧ response.outcome.status = "failed") :
    event.Concludes accounts text response := by
  have hreadable : ∃ reading, Reading.ofText text = .ok reading := ⟨reading, hread⟩
  have hhandled : ¬ ((∃ fault, Reading.ofText text = .error fault) ∨
      MeetsUnwritableBalance accounts text) := by
    rintro (⟨fault, hother⟩ | hmeets)
    · cases hread.symm.trans hother
    · exact hnot hmeets
  rcases hcases with ⟨hsettled, hstatus⟩ | ⟨hrejected, hstatus⟩
  · have hfailed : response.outcome.status ≠ "failed" := by
      intro hfailed
      rw [hfailed] at hstatus
      exact absurd hstatus (by decide)
    refine ⟨?_, ?_, ?_, Or.inl hsettled⟩
    · exact iff_of_true hsettled.name_eq hstatus
    · simp [hsettled.name_eq, hfailed]
    · exact iff_of_false (by simp [hsettled.name_eq]) hhandled
  · refine ⟨?_, ?_, ?_, Or.inr (Or.inl ⟨reading, hread, hrejected⟩)⟩
    · simp [hrejected.name_eq, hstatus]
    · exact iff_of_true hrejected.name_eq ⟨hstatus, hreadable, hnot⟩
    · exact iff_of_false (by simp [hrejected.name_eq]) hhandled

/-- Two accounts, the first one with the given balance. -/
def accountsWith (balance : Int) : List Account :=
  [⟨"a", balance, "USD"⟩, ⟨"b", 0, "USD"⟩]

end FundsTransfer
