import Mathlib.Data.List.Induction
import Mathlib.Data.Nat.Find
import FundsTransfer.Proofs.Progress
import FundsTransfer.Proofs.Wording

/-!
# Where an instruction breaks the grammar

The keywords of the grammar stand at fixed positions of an instruction, which are counted from 0.
The first position whose word does not fit there decides what is reported: that breach is the last
one of the reading, and only a missing amount or date in front of it is reported as well.

Main definitions:

- `breachAt?`: the breach of the grammar at a position of some words.
- `BreaksFirst`, `KeepsTemplate`: the first of these breaches, or none.
- `lapses`: the words that state no amount or no date, which do not end a reading.

Main results:

- Theorem `exists_readAlong_of_advance`: how far words that keep to the template are read.
- Theorem `ofWords_append_of_breach`: nothing behind the first breach is looked at.
- Theorem `exists_breaches_eq_append`: the breaches of a reading are lapses and, behind these, at most
  one that makes the instruction unreadable.
- Theorem `breaches_ofWords_eq_diagnosis`: the breaches of every reading.
-/

namespace FundsTransfer

/-! ## The template -/

/-- The side that some words open with; without the keyword of a debit it is a credit. -/
def leadOf (words : List String) : Direction :=
  if words.head?.map Text.upper = some "DEBIT" then .debit else .credit

/-- A word other than the keyword that has to stand in its place is a breach. -/
def unlessKeyword (expected : String) (breach : Breach) (word : String) : Option Breach :=
  if Text.upper word = expected then none else some breach

/-- The breach that a word makes at a position of an instruction with a given direction.  The
positions 1, 2, 5, 10 and 12 are free, and at position 13 there must be no word. -/
def misfit? (lead : Direction) (position : Nat) (word : String) : Option Breach :=
  match position with
  | 0 => if Text.upper word ∈ ["DEBIT", "CREDIT"] then none else some .keywordMissing
  | 3 => unlessKeyword lead.preposition .keywordMisplaced word
  | 4 => unlessKeyword "ACCOUNT" .keywordMissing word
  | 6 => unlessKeyword "FOR" .keywordMissing word
  | 7 => unlessKeyword lead.opposite.keyword .keywordMisplaced word
  | 8 => unlessKeyword lead.opposite.preposition .keywordMisplaced word
  | 9 => unlessKeyword "ACCOUNT" .keywordMissing word
  | 11 => unlessKeyword "ON" .malformed word
  | 13 => some .malformed
  | _ => none

/-- The breach of the grammar at a position of some words, if there is a word that does not fit. -/
def breachAt? (words : List String) (position : Nat) : Option Breach :=
  words[position]?.bind (misfit? (leadOf words) position)

/-- No word breaks the grammar; there may be too few of them. -/
def KeepsTemplate (words : List String) : Prop :=
  ∀ position, breachAt? words position = none

/-- The word at a position breaks the grammar, and all words in front of it fit. -/
structure BreaksFirst (words : List String) (position : Nat) (breach : Breach) : Prop where
  breach_eq : breachAt? words position = some breach
  earlier_eq_none : ∀ earlier < position, breachAt? words earlier = none

/-- What words in their places are reported for, without an end to the reading: the word at position
1 states no amount, and the word at position 12 is no date. -/
def lapses (words : List String) : List Breach :=
  reportIf (words[1]?.any fun word => readAmount word = .ok none) .badAmount ++
    reportIf (words[12]?.any fun word => Calendar.isWellFormedDate word = false) .badDate

/-- A word that makes no breach is the keyword that has to stand in its place. -/
theorem unlessKeyword_eq_none_iff {expected word : String} {breach : Breach} :
    unlessKeyword expected breach word = none ↔ Text.upper word = expected := by
  simp [unlessKeyword]

/-- The only breach that a word makes in the place of a keyword is the one for that place. -/
theorem eq_of_unlessKeyword_eq_some {expected word : String} {breach other : Breach}
    (hbreach : unlessKeyword expected breach word = some other) : other = breach := by
  unfold unlessKeyword at hbreach
  split at hbreach
  · cases hbreach
  · cases hbreach
    rfl

/-- Every breach that a word makes in its place makes the instruction unreadable. -/
theorem isUnreadable_of_misfit? {lead : Direction} {position : Nat} {word : String}
    {breach : Breach} (hmisfit : misfit? lead position word = some breach) :
    breach.code.isUnreadable = true := by
  unfold misfit? at hmisfit
  split at hmisfit
  · split at hmisfit
    · cases hmisfit
    · cases hmisfit
      rfl
  case h_9 =>
    cases hmisfit
    rfl
  case h_10 => cases hmisfit
  all_goals
    rw [eq_of_unlessKeyword_eq_some hmisfit]
    rfl

/-- Words that break the template are unreadable. -/
theorem isUnreadable_of_breachAt? {words : List String} {position : Nat} {breach : Breach}
    (hbreach : breachAt? words position = some breach) : breach.code.isUnreadable = true := by
  obtain ⟨word, _, hmisfit⟩ := Option.bind_eq_some_iff.1 hbreach
  exact isUnreadable_of_misfit? hmisfit

/-! ## Words in front -/

/-- More words do not change the side that words open with. -/
theorem leadOf_append {words : List String} (hne : words ≠ []) (later : List String) :
    leadOf (words ++ later) = leadOf words := by
  cases words with
  | nil => exact absurd rfl hne
  | cons word rest => rfl

/-- Whether a word fits does not hang on the words behind it. -/
theorem breachAt?_append {words : List String} {position : Nat} (hlt : position < words.length)
    (later : List String) : breachAt? (words ++ later) position = breachAt? words position := by
  have hne : words ≠ [] := List.ne_nil_of_length_pos (by omega)
  rw [breachAt?, breachAt?, leadOf_append hne, List.getElem?_append_left hlt]

/-- Behind the last word there is no breach. -/
theorem breachAt?_of_length_le {words : List String} {position : Nat}
    (hle : words.length ≤ position) : breachAt? words position = none := by
  rw [breachAt?, List.getElem?_eq_none hle, Option.bind_none]

/-- Words in front of others keep to the template if the others do not break it before. -/
theorem keepsTemplate_of_append {words later : List String}
    (hearlier : ∀ position < words.length, breachAt? (words ++ later) position = none) :
    KeepsTemplate words := by
  intro position
  rcases Nat.lt_or_ge position words.length with hlt | hge
  · rw [← breachAt?_append hlt later]
    exact hearlier position hlt
  · exact breachAt?_of_length_le hge

/-- No instruction that keeps to the template has a word at position 13. -/
theorem length_le_of_keepsTemplate {words : List String} (hkeeps : KeepsTemplate words) :
    words.length ≤ 13 := by
  by_contra hlong
  have hbreach := hkeeps 13
  rw [breachAt?, List.getElem?_eq_getElem (by omega)] at hbreach
  cases hbreach

/-- Words keep to the template, or there is a first word that breaks it. -/
theorem keepsTemplate_or_breaksFirst (words : List String) :
    KeepsTemplate words ∨ ∃ position breach, BreaksFirst words position breach := by
  by_cases hbroken : ∃ position, breachAt? words position ≠ none
  · refine Or.inr ⟨Nat.find hbroken, ?_⟩
    obtain ⟨breach, hbreach⟩ := Option.ne_none_iff_exists'.1 (Nat.find_spec hbroken)
    refine ⟨breach, hbreach, ?_⟩
    intro earlier hlt
    exact not_not.1 (Nat.find_min hbroken hlt)
  · refine Or.inl ?_
    intro position
    by_contra hbreach
    exact hbroken ⟨position, hbreach⟩

/-- The first word that breaks the template stands behind words that keep to it. -/
theorem BreaksFirst.exists_eq_append {words : List String} {position : Nat} {breach : Breach}
    (hfirst : BreaksFirst words position breach) :
    ∃ front word later, words = front ++ word :: later ∧ front.length = position ∧
      KeepsTemplate front ∧ breachAt? (front ++ [word]) front.length = some breach := by
  have hlt : position < words.length := by
    by_contra hge
    have hbreach := hfirst.breach_eq
    rw [breachAt?_of_length_le (by omega)] at hbreach
    cases hbreach
  have hlength : (words.take position).length = position := by
    rw [List.length_take]
    omega
  have hsplit : words = words.take position ++ words[position] :: words.drop (position + 1) := by
    rw [← List.drop_eq_getElem_cons hlt, List.take_append_drop]
  refine ⟨_, _, _, hsplit, hlength, ?_, ?_⟩
  · refine @keepsTemplate_of_append _ (words.drop position) ?_
    intro earlier hearlier
    rw [List.take_append_drop]
    exact hfirst.earlier_eq_none earlier (by omega)
  · have hbreach := hfirst.breach_eq
    rw [hsplit, List.append_cons, breachAt?_append (by simp; omega)] at hbreach
    rw [hlength]
    exact hbreach

/-! ## The template and the stages -/

/-- The breach that a word makes in a slot. -/
def Slot.misfit? (slot : Slot) (lead : Direction) (word : String) : Option Breach :=
  match slot with
  | .direction => if Text.upper word ∈ ["DEBIT", "CREDIT"] then none else some .keywordMissing
  | .keyword expected breach => unlessKeyword (expected lead) breach word
  | .nothing => some .malformed
  | _ => none

/-- What a word in its slot is reported for. -/
def Slot.lapse (slot : Slot) (word : String) : List Breach :=
  match slot with
  | .amount => reportIf (readAmount word = .ok none) .badAmount
  | .date => reportIf (Calendar.isWellFormedDate word = false) .badDate
  | _ => []

/-- Each position of the template is the slot of a stage. -/
theorem misfit?_position {stage : Stage} (hstage : stage ≠ .complete) (lead : Direction)
    (word : String) : misfit? lead stage.position word = stage.slot.misfit? lead word := by
  cases stage with
  | complete => exact absurd rfl hstage
  | _ => simp [Stage.position, Stage.all, misfit?, Slot.misfit?, Stage.slot]

/-- Only the first word of an instruction is read at the start. -/
theorem position_eq_zero_iff {stage : Stage} : stage.position = 0 ↔ stage = .start := by
  cases stage <;> decide

/-- A word at the end leaves the other positions as they are. -/
theorem getElem?_concat_of_ne {words : List String} {position : Nat}
    (hne : words.length ≠ position) (word : String) :
    (words ++ [word])[position]? = words[position]? := by
  grind

/-- One more word is reported for what it is in its slot. -/
theorem lapses_concat {stage : Stage} {words : List String}
    (hposition : stage.position = words.length) (word : String) :
    lapses (words ++ [word]) = lapses words ++ stage.slot.lapse word := by
  cases stage with
  | direction =>
      have hlength : words.length = 1 := hposition.symm
      simp [lapses, hlength, Stage.slot, Slot.lapse]
  | dateKeyword =>
      have hlength : words.length = 12 := hposition.symm
      simp [lapses, hlength, Stage.slot, Slot.lapse]
  | _ =>
      have hamount : words.length ≠ 1 := by
        rw [← hposition]
        decide
      have hdate : words.length ≠ 12 := by
        rw [← hposition]
        decide
      rw [lapses, getElem?_concat_of_ne hamount, getElem?_concat_of_ne hdate]
      simp [lapses, Stage.slot, Slot.lapse]

/-- A word that does not fit in its slot ends the reading. -/
theorem read_eq_halt {stage : Stage} {reading : Reading} {word : String} {breach : Breach}
    (hmisfit : stage.slot.misfit? reading.lead word = some breach) :
    stage.read word reading = .ok (.halt reading breach) := by
  unfold Stage.read
  cases hslot : stage.slot with
  | direction =>
      rw [hslot, Slot.misfit?] at hmisfit
      split at hmisfit
      · cases hmisfit
      · rename_i hword
        have hnone : Direction.ofKeyword? (Text.upper word) = none :=
          Direction.ofKeyword?_eq_none_iff.2 (by simpa using hword)
        cases hmisfit
        simp only [hnone]
  | keyword expected report =>
      rw [hslot, Slot.misfit?, unlessKeyword] at hmisfit
      split at hmisfit
      · cases hmisfit
      · rename_i hword
        cases hmisfit
        simp only [hword, if_false]
  | nothing =>
      rw [hslot] at hmisfit
      cases hmisfit
      rfl
  | _ =>
      rw [hslot] at hmisfit
      cases hmisfit

/-! ## One word that fits -/

/-- The direction of an instruction after a word in a slot. -/
def Slot.leadAfter (slot : Slot) (lead : Direction) (word : String) : Direction :=
  match slot with
  | .direction => leadOf [word]
  | _ => lead

/-- The keyword of a side opens an instruction of that side. -/
theorem leadOf_singleton {word : String} {side : Direction}
    (hword : Text.upper word = side.keyword) : leadOf [word] = side := by
  cases side <;> simp [leadOf, hword, Direction.keyword]

namespace Reading

@[simp]
theorem lead_withAmount (reading : Reading) (amount : Option Nat) :
    (reading.withAmount amount).lead = reading.lead := by
  cases amount <;> rfl

@[simp]
theorem lead_withAccount (reading : Reading) (side : Direction) (id : String) :
    (reading.withAccount side id).lead = reading.lead := by
  cases side <;> rfl

@[simp]
theorem lead_withDate (reading : Reading) (word : String) :
    (reading.withDate word).lead = reading.lead := by
  unfold withDate
  split <;> rfl

/-- A missing amount is reported. -/
theorem breaches_withAmount (reading : Reading) (amount : Option Nat) :
    (reading.withAmount amount).breaches =
      reading.breaches ++ reportIf (amount = none) .badAmount := by
  cases amount <;> simp [withAmount, reportIf]

/-- A word that is no date is reported. -/
theorem breaches_withDate (reading : Reading) (word : String) :
    (reading.withDate word).breaches =
      reading.breaches ++ reportIf (Calendar.isWellFormedDate word = false) .badDate := by
  by_cases hdate : Calendar.isWellFormedDate word = true <;> simp [withDate, reportIf, hdate]

end Reading

/-- A word that fits in its slot leads to the next stage. -/
theorem onward_of_read {stage : Stage} {reading : Reading} {word : String} {progress : Progress}
    (hfits : stage.slot.misfit? reading.lead word = none)
    (hread : stage.read word reading = .ok progress) :
    progress.stage = some stage.next ∧
      progress.reading.lead = stage.slot.leadAfter reading.lead word ∧
      progress.reading.breaches = reading.breaches ++ stage.slot.lapse word := by
  unfold Stage.read at hread
  cases hslot : stage.slot with
  | direction =>
      rw [hslot, Slot.misfit?] at hfits
      simp only [hslot] at hread
      cases hside : Direction.ofKeyword? (Text.upper word) with
      | none => simp [Direction.ofKeyword?_eq_none_iff.1 hside] at hfits
      | some side =>
          have hword := Direction.ofKeyword?_eq_some_iff.1 hside
          simp only [hside] at hread
          cases hread
          refine ⟨rfl, ?_, (List.append_nil _).symm⟩
          rw [Slot.leadAfter, leadOf_singleton hword]
          exact Reading.lead_of_heading rfl
  | amount =>
      simp only [hslot] at hread
      obtain ⟨amount, hamount, rfl⟩ := exists_eq_ok_of_map hread
      refine ⟨rfl, Reading.lead_withAmount reading amount, ?_⟩
      simp [Progress.onward, Slot.lapse, hamount, Reading.breaches_withAmount]
  | keyword expected report =>
      rw [hslot, Slot.misfit?, unlessKeyword] at hfits
      simp only [hslot] at hread
      split at hfits
      · rename_i hword
        rw [if_pos hword] at hread
        cases hread
        exact ⟨rfl, rfl, (List.append_nil _).symm⟩
      · cases hfits
  | account side =>
      simp only [hslot] at hread
      cases hread
      refine ⟨rfl, Reading.lead_withAccount reading _ word, ?_⟩
      simp [Progress.onward, Slot.lapse]
  | currency =>
      simp only [hslot] at hread
      cases hread
      exact ⟨rfl, rfl, (List.append_nil _).symm⟩
  | date =>
      simp only [hslot] at hread
      cases hread
      exact ⟨rfl, Reading.lead_withDate reading word, Reading.breaches_withDate reading word⟩
  | nothing =>
      rw [hslot] at hfits
      cases hfits

/-! ## Words that fit -/

/-- What is known when some words that keep to the template have been read. -/
structure ReadAlong (words : List String) (stage : Stage) (reading : Reading) : Prop where
  position_eq : stage.position = words.length
  lead_eq : reading.lead = leadOf words
  breaches_eq : reading.breaches = lapses words

/-- The words up to one that keep to the template do so without it. -/
theorem keepsTemplate_of_concat {words : List String} {word : String}
    (hkeeps : KeepsTemplate (words ++ [word])) : KeepsTemplate words :=
  keepsTemplate_of_append fun position _ => hkeeps position

/-- Only the first word of an instruction bears on the direction. -/
theorem leadAfter_eq_leadOf {stage : Stage} {words : List String}
    (hposition : stage.position = words.length) (word : String) :
    stage.slot.leadAfter (leadOf words) word = leadOf (words ++ [word]) := by
  cases words with
  | nil =>
      rw [position_eq_zero_iff.1 hposition]
      rfl
  | cons first rest =>
      rw [leadOf_append (List.cons_ne_nil first rest)]
      cases stage with
      | start =>
          rw [position_eq_zero_iff.2 rfl] at hposition
          cases hposition
      | _ => rfl

/-- At the stage that has been reached a word is judged by the template. -/
theorem ReadAlong.misfit?_eq {words : List String} {stage : Stage} {reading : Reading}
    (halong : ReadAlong words stage reading) (hkeeps : KeepsTemplate words) (word : String) :
    stage.slot.misfit? reading.lead word = breachAt? (words ++ [word]) words.length := by
  have hposition := halong.position_eq
  have hincomplete : stage ≠ .complete := by
    rintro rfl
    have hlength := length_le_of_keepsTemplate hkeeps
    have hlast : Stage.complete.position = 14 := by decide
    omega
  rw [breachAt?, List.getElem?_concat_length, Option.bind_some, ← hposition,
    misfit?_position hincomplete, halong.lead_eq]
  cases words with
  | nil =>
      -- At the first word nothing hangs on the direction.
      rw [position_eq_zero_iff.1 hposition]
      rfl
  | cons first rest => rw [leadOf_append (List.cons_ne_nil first rest)]

/-- One more word that fits is read along. -/
theorem ReadAlong.concat {words : List String} {word : String} {stage : Stage} {reading : Reading}
    {progress : Progress} (halong : ReadAlong words stage reading)
    (hkeeps : KeepsTemplate (words ++ [word]))
    (hread : stage.read word reading = .ok progress) :
    ∃ next, progress.stage = some next ∧ ReadAlong (words ++ [word]) next progress.reading := by
  have hfits : stage.slot.misfit? reading.lead word = none := by
    rw [halong.misfit?_eq (keepsTemplate_of_concat hkeeps) word]
    exact hkeeps words.length
  obtain ⟨hstage, hlead, hbreaches⟩ := onward_of_read hfits hread
  have hposition := halong.position_eq
  have hincomplete : stage ≠ .complete := by
    rintro rfl
    cases hfits
  refine ⟨stage.next, hstage, ?_, ?_, ?_⟩
  · rw [Stage.position_next hincomplete, hposition, List.length_append, List.length_singleton]
  · rw [hlead, halong.lead_eq, leadAfter_eq_leadOf hposition]
  · rw [hbreaches, halong.breaches_eq, lapses_concat hposition]

/-- Words that keep to the template are all read along. -/
theorem exists_readAlong_of_advance {words : List String} {progress : Progress}
    (hkeeps : KeepsTemplate words) (hadvance : advance .start {} words = .ok progress) :
    ∃ stage, progress.stage = some stage ∧ ReadAlong words stage progress.reading := by
  induction words using List.reverseRecOn generalizing progress with
  | nil =>
      cases hadvance
      exact ⟨.start, rfl, rfl, rfl, rfl⟩
  | append_singleton words word ih =>
      rw [advance_append] at hadvance
      cases hfront : advance .start {} words with
      | error fault =>
          rw [hfront] at hadvance
          cases hadvance
      | ok front =>
          obtain ⟨stage, hstage, halong⟩ := ih (keepsTemplate_of_concat hkeeps) hfront
          simp only [hfront, Except.bind, hstage, advance] at hadvance
          split at hadvance
          · rename_i hread
            cases hadvance
            exact halong.concat hkeeps hread
          · rename_i hread
            cases hadvance
            exact halong.concat hkeeps hread
          · cases hadvance

/-! ## The diagnosis -/

/-- The first word that breaks the template ends the reading, and no word behind it counts. -/
theorem ofWords_append_of_breach {front : List String} {word : String} {breach : Breach}
    (hkeeps : KeepsTemplate front)
    (hbreach : breachAt? (front ++ [word]) front.length = some breach) (later : List String) :
    Reading.ofWords (front ++ word :: later) =
      (advance .start {} front).map fun progress => progress.reading.report breach := by
  rw [Reading.ofWords, readFrom, advance_append]
  cases hfront : advance .start {} front with
  | error fault => rfl
  | ok progress =>
      obtain ⟨stage, hstage, halong⟩ := exists_readAlong_of_advance hkeeps hfront
      have hhalt : stage.read word progress.reading = .ok (.halt progress.reading breach) := by
        apply read_eq_halt
        rw [halong.misfit?_eq hkeeps word, hbreach]
      simp only [Except.bind, hstage, advance, hhalt, Progress.halt]
      rfl

/-- The breaches of words that break the template: what the words in front are reported for, and
the first breach of the template. -/
theorem breaches_of_breach {front : List String} {word : String} {breach : Breach}
    {later : List String} {reading : Reading} (hkeeps : KeepsTemplate front)
    (hbreach : breachAt? (front ++ [word]) front.length = some breach)
    (hread : Reading.ofWords (front ++ word :: later) = .ok reading) :
    reading.breaches = lapses front ++ [breach] := by
  rw [ofWords_append_of_breach hkeeps hbreach] at hread
  obtain ⟨progress, hfront, rfl⟩ := exists_eq_ok_of_map hread
  obtain ⟨stage, _, halong⟩ := exists_readAlong_of_advance hkeeps hfront
  rw [Reading.breaches_report, halong.breaches_eq]

/-- An instruction may end after 11 words and after 13. -/
theorem isAccepting_iff (stage : Stage) :
    stage.isAccepting = true ↔ stage.position = 11 ∨ stage.position = 13 := by
  cases stage <;> decide

/-- The end of the words is reported if it comes too early. -/
theorem breaches_finish {progress : Progress} {stage : Stage} (hstage : progress.stage = some stage) :
    progress.finish.breaches =
      progress.reading.breaches ++ reportIf (stage.isAccepting = false) .malformed := by
  rw [Progress.finish, hstage]
  cases haccepting : stage.isAccepting <;> simp [Reading.close, haccepting, reportIf]

/-- The breaches of words that keep to the template: what they are reported for, and that they are
too few. -/
theorem breaches_of_keepsTemplate {words : List String} {reading : Reading}
    (hkeeps : KeepsTemplate words) (hread : Reading.ofWords words = .ok reading) :
    reading.breaches =
      lapses words ++ reportIf (words.length < 11 ∨ words.length = 12) .malformed := by
  obtain ⟨progress, hadvance, rfl⟩ := exists_eq_ok_of_map hread
  obtain ⟨stage, hstage, halong⟩ := exists_readAlong_of_advance hkeeps hadvance
  have hearly : stage.isAccepting = false ↔ words.length < 11 ∨ words.length = 12 := by
    have hlength := length_le_of_keepsTemplate hkeeps
    rw [Bool.eq_false_iff, ne_eq, isAccepting_iff, halong.position_eq]
    omega
  rw [breaches_finish hstage, halong.breaches_eq]
  simp only [reportIf, hearly]

/-- In their places words are reported for two kinds of breaches only. -/
theorem eq_of_mem_lapses {words : List String} {breach : Breach} (hbreach : breach ∈ lapses words) :
    breach = .badAmount ∨ breach = .badDate := by
  rw [lapses, List.mem_append, mem_reportIf, mem_reportIf] at hbreach
  exact hbreach.imp And.right And.right

/-- What words are reported for in their places leaves an instruction readable. -/
theorem isUnreadable_of_mem_lapses {words : List String} {breach : Breach}
    (hbreach : breach ∈ lapses words) : breach.code.isUnreadable = false := by
  rcases eq_of_mem_lapses hbreach with rfl | rfl <;> rfl

/-- The breaches of every reading: what words are reported for in their places, and at most one breach
behind these that makes the instruction unreadable. -/
theorem exists_breaches_eq_append {words : List String} {reading : Reading}
    (hread : Reading.ofWords words = .ok reading) :
    ∃ (front : List String) (last : Option Breach),
      reading.breaches = lapses front ++ last.toList ∧
      ∀ breach ∈ last, breach.code.isUnreadable = true := by
  rcases keepsTemplate_or_breaksFirst words with hkeeps | ⟨position, breach, hfirst⟩
  · rw [breaches_of_keepsTemplate hkeeps hread, reportIf]
    split
    · exact ⟨words, some .malformed, rfl, by simp [Breach.malformed, Code.isUnreadable]⟩
    · exact ⟨words, none, rfl, by simp⟩
  · obtain ⟨front, word, later, rfl, rfl, hkeeps, hbreach⟩ := hfirst.exists_eq_append
    refine ⟨front, some breach, breaches_of_breach hkeeps hbreach hread, ?_⟩
    simpa using isUnreadable_of_breachAt? hbreach

/-- The catalogue knows every kind of breach that words are reported for. -/
theorem mem_catalogue_of_mem_breaches {words : List String} {reading : Reading} {breach : Breach}
    (hread : Reading.ofWords words = .ok reading) (hbreach : breach ∈ reading.breaches) :
    breach.code ∈ Code.catalogue := by
  obtain ⟨front, last, hbreaches, hlast⟩ := exists_breaches_eq_append hread
  rw [hbreaches, List.mem_append, Option.mem_toList] at hbreach
  rcases hbreach with hlapse | hmem
  · rcases eq_of_mem_lapses hlapse with rfl | rfl <;> decide
  · exact Code.mem_catalogue_of_isUnreadable (hlast breach hmem)

/-- The breaches of every reading.  If there is a first word that breaks the template, its breach ends
the reading, only missing amounts and dates in front of it are reported as well, and the words behind
it may be any others or none.  Otherwise it is reported if there are too few words.  Either way only
the last breach makes an instruction unreadable. -/
theorem breaches_ofWords_eq_diagnosis {words : List String} {reading : Reading}
    (hread : Reading.ofWords words = .ok reading) :
    (∀ position breach, BreaksFirst words position breach →
      reading.breaches = lapses (words.take position) ++ [breach] ∧
      ∀ later, Reading.ofWords (words.take (position + 1) ++ later) = .ok reading) ∧
    (KeepsTemplate words →
      reading.breaches =
        lapses words ++ reportIf (words.length < 11 ∨ words.length = 12) .malformed) ∧
    ∀ breach ∈ reading.breaches.dropLast, breach.code.isUnreadable = false := by
  refine ⟨?_, fun hkeeps => breaches_of_keepsTemplate hkeeps hread, ?_⟩
  · intro position breach hfirst
    obtain ⟨front, word, later, rfl, rfl, hkeeps, hbreach⟩ := hfirst.exists_eq_append
    have hfront : (front ++ word :: later).take (front.length + 1) = front ++ [word] := by
      rw [List.append_cons, List.take_left' (by simp)]
    rw [List.take_left, hfront]
    constructor
    · exact breaches_of_breach hkeeps hbreach hread
    · intro others
      rw [List.append_assoc, List.singleton_append, ofWords_append_of_breach hkeeps hbreach,
        ← ofWords_append_of_breach hkeeps hbreach later, hread]
  · intro breach hmem
    rcases keepsTemplate_or_breaksFirst words with hkeeps | ⟨position, last, hfirst⟩
    · rw [breaches_of_keepsTemplate hkeeps hread, reportIf] at hmem
      split at hmem
      · rw [List.dropLast_concat] at hmem
        exact isUnreadable_of_mem_lapses hmem
      · rw [List.append_nil] at hmem
        exact isUnreadable_of_mem_lapses (List.dropLast_subset _ hmem)
    · obtain ⟨front, word, later, rfl, rfl, hkeeps, hbreach⟩ := hfirst.exists_eq_append
      rw [breaches_of_breach hkeeps hbreach hread, List.dropLast_concat] at hmem
      exact isUnreadable_of_mem_lapses hmem

/-- Words with `TO` where `FOR` has to stand, and with an amount that is none. -/
def wordsWithoutFor : List String :=
  ["debit", "1.5", "USD", "FROM", "ACCOUNT", "a", "TO", "CREDIT"]

/-- The missing amount is reported in front of the missing keyword, whatever follows that. -/
theorem breaches_of_wordsWithoutFor :
    (∃ reading, Reading.ofWords wordsWithoutFor = .ok reading ∧
      reading.breaches = [.badAmount, .keywordMissing] ∧
      Reading.ofWords (wordsWithoutFor.take 7 ++ ["FOR", "FOR"]) = .ok reading) ∧
    BreaksFirst wordsWithoutFor 6 .keywordMissing := by
  have hread : Reading.ofWords wordsWithoutFor =
      .ok { heading := some (.side .debit), currency := some "USD", debitId := some "a",
            breaches := [.badAmount, .keywordMissing] } := by
    decide +kernel
  have hfirst : BreaksFirst wordsWithoutFor 6 .keywordMissing :=
    ⟨by decide +kernel, by decide +kernel⟩
  obtain ⟨_, hlater⟩ := (breaches_ofWords_eq_diagnosis hread).1 6 .keywordMissing hfirst
  exact ⟨⟨_, hread, rfl, hlater ["FOR", "FOR"]⟩, hfirst⟩

end FundsTransfer
