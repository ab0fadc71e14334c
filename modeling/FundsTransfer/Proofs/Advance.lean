import FundsTransfer.Proofs.Diagnosis
import FundsTransfer.Proofs.Precedence

/-!
# How a reading gets on

A word leads forward in the order of the stages or ends the reading, and it writes little: at most
one breach, and at most one part of the reading.  As no stage is met twice, no reading goes on for
long, wherever it starts and whatever was read before.

Main definitions:

- `Reading.Part`: the parts of a reading that a word may enter.
- `Stage.LeadsTo`: what may come of a word at a stage, with the breach that is reported.

Main results:

- Theorem `exists_leadsTo_of_read`: nothing else comes of a word.
- Theorem `position_of_advance`: every word that is read leads one position further.
- Theorem `stage_eq_none_of_advance`: fourteen words end every reading.
- Theorem `reading_moves_forward`: the two together.
-/

namespace FundsTransfer

/-! ## Parts -/

namespace Reading

/-- The parts of an instruction in a reading. -/
inductive Part where
  | heading
  | amount
  | currency
  | debitId
  | creditId
  | executeBy
deriving DecidableEq, Repr

/-- Two readings are the same in a part, be it known or not. -/
def SameIn (reading later : Reading) : Part → Prop
  | .heading => later.heading = reading.heading
  | .amount => later.amount = reading.amount
  | .currency => later.currency = reading.currency
  | .debitId => later.debitId = reading.debitId
  | .creditId => later.creditId = reading.creditId
  | .executeBy => later.executeBy = reading.executeBy

/-- A report leaves all parts as they are. -/
theorem sameIn_report (reading : Reading) (breach : Breach) (part : Part) :
    reading.SameIn (reading.report breach) part := by
  cases part <;> rfl

/-- An account is entered in the part for the id on its side. -/
theorem exists_part_withAccount (reading : Reading) (side : Direction) (id : String) :
    ∃ part, ∀ other, other ≠ part → reading.SameIn (reading.withAccount side id) other := by
  cases side with
  | debit =>
      refine ⟨.debitId, fun other hne => ?_⟩
      cases other with
      | debitId => exact absurd rfl hne
      | _ => rfl
  | credit =>
      refine ⟨.creditId, fun other hne => ?_⟩
      cases other with
      | creditId => exact absurd rfl hne
      | _ => rfl

/-- A word changes at most one part. -/
theorem exists_part_of_change {word : String} {reading later : Reading}
    (hchange : reading.Change word later) :
    ∃ part, ∀ other, other ≠ part → reading.SameIn later other := by
  cases hchange with
  | keyword => exact ⟨.heading, fun other _ => by cases other <;> rfl⟩
  | heading =>
      refine ⟨.heading, fun other hne => ?_⟩
      cases other with
      | heading => exact absurd rfl hne
      | _ => rfl
  | amount =>
      refine ⟨.amount, fun other hne => ?_⟩
      cases other with
      | amount => exact absurd rfl hne
      | _ => rfl
  | currency =>
      refine ⟨.currency, fun other hne => ?_⟩
      cases other with
      | currency => exact absurd rfl hne
      | _ => rfl
  | account side => exact exists_part_withAccount reading side word
  | date =>
      refine ⟨.executeBy, fun other hne => ?_⟩
      cases other with
      | executeBy => exact absurd rfl hne
      | _ => rfl
  | breach breach => exact ⟨.heading, fun other _ => sameIn_report reading breach other⟩

end Reading

/-! ## One word -/

/-- What may come of a word at a stage of a reading, with the breach that is reported, if any.
Breaches of three kinds end the reading, and then nothing else is written; otherwise a later stage is
reached, only a missing amount or date is reported, and at most one part is written. -/
structure Stage.LeadsTo (stage : Stage) (reading : Reading) (reported : Option Breach)
    (progress : Progress) : Prop where
  breaches_eq : progress.reading.breaches = reading.breaches ++ reported.toList
  halts_iff : progress.stage = none ↔
    ∃ breach ∈ reported, breach.code.text ∈ ["SY01", "SY02", "SY03"]
  sameIn_of_halt : progress.stage = none → ∀ part, reading.SameIn progress.reading part
  position_lt : ∀ next ∈ progress.stage, stage.position < next.position
  ne_complete : ∀ next ∈ progress.stage, next ≠ .complete
  lapse_of_onward : ∀ next ∈ progress.stage, ∀ breach ∈ reported,
    breach.code.text ∈ ["AM01", "DT01"]
  exists_part : ∃ part, ∀ other, other ≠ part → reading.SameIn progress.reading other

/-- A word that does not fit in its slot makes the instruction unreadable. -/
theorem isUnreadable_of_misfit?_slot {stage : Stage} {lead : Direction} {word : String}
    {breach : Breach} (hmisfit : stage.slot.misfit? lead word = some breach) :
    breach.code.isUnreadable = true := by
  by_cases hcomplete : stage = .complete
  · subst hcomplete
    cases hmisfit
    rfl
  · rw [← misfit?_position hcomplete] at hmisfit
    exact isUnreadable_of_misfit? hmisfit

/-- At the last two stages no word fits. -/
theorem Stage.next_ne_complete {stage : Stage} {lead : Direction} {word : String}
    (hfits : stage.slot.misfit? lead word = none) : stage.next ≠ .complete := by
  cases stage with
  | date => cases hfits
  | complete => cases hfits
  | _ => decide

/-- A word that fits in its slot is reported once at most, for a missing amount or date. -/
theorem exists_lapse_eq_toList (slot : Slot) (word : String) :
    ∃ reported : Option Breach, slot.lapse word = reported.toList ∧
      ∀ breach ∈ reported, breach.code.text ∈ ["AM01", "DT01"] := by
  cases slot with
  | amount =>
      by_cases hnone : readAmount word = .ok none
      · refine ⟨some .badAmount, by simp [Slot.lapse, reportIf, hnone], ?_⟩
        rintro breach ⟨⟩
        decide
      · exact ⟨none, by simp [Slot.lapse, reportIf, hnone], by simp⟩
  | date =>
      by_cases hbad : Calendar.isWellFormedDate word = false
      · refine ⟨some .badDate, by simp [Slot.lapse, reportIf, hbad], ?_⟩
        rintro breach ⟨⟩
        decide
      · exact ⟨none, by simp [Slot.lapse, reportIf, hbad], by simp⟩
  | _ => exact ⟨none, rfl, by simp⟩

/-- A word that ends the reading leaves all parts as they are. -/
theorem leadsTo_halt (stage : Stage) (reading : Reading) {breach : Breach}
    (hunreadable : breach.code.isUnreadable = true) :
    stage.LeadsTo reading (some breach) (.halt reading breach) where
  breaches_eq := rfl
  halts_iff := iff_of_true rfl ⟨breach, rfl, Code.text_mem_of_isUnreadable hunreadable⟩
  sameIn_of_halt _ part := Reading.sameIn_report reading breach part
  position_lt next hnext := by cases hnext
  ne_complete next hnext := by cases hnext
  lapse_of_onward next hnext := by cases hnext
  exists_part := ⟨.heading, fun other _ => Reading.sameIn_report reading breach other⟩

/-- A word at a stage leads forward and writes little, whatever was read before. -/
theorem exists_leadsTo_of_read {stage : Stage} {word : String} {reading : Reading}
    {progress : Progress} (hread : stage.read word reading = .ok progress) :
    ∃ reported, stage.LeadsTo reading reported progress := by
  cases hfits : stage.slot.misfit? reading.lead word with
  | some breach =>
      rw [read_eq_halt hfits] at hread
      cases hread
      exact ⟨some breach, leadsTo_halt stage reading (isUnreadable_of_misfit?_slot hfits)⟩
  | none =>
      obtain ⟨hstage, -, hbreaches⟩ := onward_of_read hfits hread
      obtain ⟨reported, hlapse, htext⟩ := exists_lapse_eq_toList stage.slot word
      have hhalts : ¬ ∃ breach ∈ reported, breach.code.text ∈ ["SY01", "SY02", "SY03"] := by
        rintro ⟨breach, hbreach, hgrave⟩
        have hlight := htext breach hbreach
        simp only [List.mem_cons, List.not_mem_nil, or_false] at hlight hgrave
        rcases hlight with hcode | hcode <;> simp [hcode] at hgrave
      refine ⟨reported,
        { breaches_eq := hlapse ▸ hbreaches
          halts_iff := iff_of_false (by simp [hstage]) hhalts
          sameIn_of_halt := by simp [hstage]
          position_lt := ?_
          ne_complete := ?_
          lapse_of_onward := fun _ _ => htext
          exists_part := Reading.exists_part_of_change (change_of_read hread) }⟩
      · intro next hnext
        rw [position_of_read hread hnext]
        exact Nat.lt_succ_self _
      · intro next hnext
        rw [stage_of_read hread hnext]
        exact Stage.next_ne_complete hfits

/-! ## All words -/

/-- All stages but the last stand in front of position 14. -/
theorem Stage.position_lt_of_ne_complete {stage : Stage} (hne : stage ≠ .complete) :
    stage.position < 14 := by
  cases stage with
  | complete => exact absurd rfl hne
  | _ => decide

/-- Every word that is read leads one position further, and none leads to the end of the stages. -/
theorem position_of_advance {stage next : Stage} {reading : Reading} {words : List String}
    {progress : Progress} (hadvance : advance stage reading words = .ok progress)
    (hnext : next ∈ progress.stage) :
    next.position = stage.position + words.length ∧ (next = .complete → words = []) := by
  -- The last word that was read has not led to the end, so the end can only be where none was read.
  induction words generalizing stage reading with
  | nil =>
      cases hadvance
      cases hnext
      exact ⟨rfl, fun _ => rfl⟩
  | cons word rest ih =>
      rw [advance] at hadvance
      split at hadvance
      · rename_i second later hread
        obtain ⟨hposition, hcomplete⟩ := ih hadvance
        obtain ⟨reported, hleads⟩ := exists_leadsTo_of_read hread
        rw [position_of_read hread rfl] at hposition
        refine ⟨by rw [hposition, List.length_cons]; omega, fun hnextComplete => ?_⟩
        have hrest := hcomplete hnextComplete
        subst hrest
        cases hadvance
        cases hnext
        exact absurd hnextComplete (hleads.ne_complete _ rfl)
      · cases hadvance
        cases hnext
      · cases hadvance

/-- Fourteen words end every reading that can be read. -/
theorem stage_eq_none_of_advance {stage : Stage} {reading : Reading} {words : List String}
    {progress : Progress} (hlength : 14 ≤ words.length)
    (hadvance : advance stage reading words = .ok progress) : progress.stage = none := by
  cases hstage : progress.stage with
  | none => rfl
  | some next =>
      obtain ⟨hposition, hcomplete⟩ := position_of_advance hadvance hstage
      have hne : next ≠ .complete := by
        intro hnext
        rw [hcomplete hnext] at hlength
        exact absurd hlength (by decide)
      have hlt := Stage.position_lt_of_ne_complete hne
      omega

/-- Behind words that end a reading no word is looked at. -/
theorem advance_append_of_halt {stage : Stage} {reading : Reading} {words : List String}
    (hhalt : ∀ progress, advance stage reading words = .ok progress → progress.stage = none)
    (more : List String) :
    advance stage reading (words ++ more) = advance stage reading words := by
  rw [advance_append]
  cases hadvance : advance stage reading words with
  | error fault => rfl
  | ok progress => simp only [Except.bind, hhalt progress hadvance]

/-- A word at a stage leads forward and writes little, whatever was read before.  So a reading that
is offered fourteen words or more has come to an end or to a fault with the first fourteen. -/
theorem reading_moves_forward :
    (∀ (stage : Stage) (word : String) (reading : Reading) (progress : Progress),
      stage.read word reading = .ok progress →
        ∃ reported, stage.LeadsTo reading reported progress) ∧
    ∀ (stage : Stage) (reading : Reading) (words : List String), 14 ≤ words.length →
      advance stage reading words = advance stage reading (words.take 14) ∧
      ((∃ fault, advance stage reading (words.take 14) = .error fault) ∨
        ∃ last, advance stage reading (words.take 14) = .ok ⟨none, last⟩) := by
  refine ⟨fun stage word reading progress => exists_leadsTo_of_read, ?_⟩
  intro stage reading words hlength
  have hhalt : ∀ progress, advance stage reading (words.take 14) = .ok progress →
      progress.stage = none := by
    intro progress hadvance
    exact stage_eq_none_of_advance (by rw [List.length_take]; omega) hadvance
  refine ⟨?_, ?_⟩
  · have hsame := advance_append_of_halt hhalt (words.drop 14)
    rwa [List.take_append_drop] at hsame
  · cases hadvance : advance stage reading (words.take 14) with
    | error fault => exact Or.inl ⟨fault, rfl⟩
    | ok progress =>
        refine Or.inr ⟨progress.reading, ?_⟩
        rw [← hhalt progress hadvance]

/-- A reading that no words come to: its direction is none, and it has a date but no currency. -/
def oddReading : Reading :=
  { heading := some (.word "SEND" (by decide)), creditId := some "", executeBy := some "never",
    breaches := [.malformed] }

/-- It gets on as well: a bad date is reported, and many keywords come to an end. -/
theorem oddReading_moves_forward :
    (∃ reported, Stage.dateKeyword.LeadsTo oddReading reported
      (.onward .date (oddReading.report .badDate))) ∧
    ∃ last, advance .secondAccountKeyword oddReading (List.replicate 15 "on") =
      .ok ⟨none, last⟩ := by
  obtain ⟨hstep, hrun⟩ := reading_moves_forward
  refine ⟨hstep .dateKeyword "2025-13-01" oddReading _ (by decide +kernel), ?_⟩
  obtain ⟨hsame, ⟨fault, hfault⟩ | ⟨last, hlast⟩⟩ :=
    hrun .secondAccountKeyword oddReading (List.replicate 15 "on") (by decide)
  · have hread : (advance .secondAccountKeyword oddReading
        ((List.replicate 15 "on").take 14)).isOk = true := by
      decide +kernel
    rw [hfault] at hread
    cases hread
  · exact ⟨last, hsame.trans hlast⟩

end FundsTransfer
