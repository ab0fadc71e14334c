import FundsTransfer.Proofs.Diagnosis
import FundsTransfer.Proofs.Precedence

/-!
# Which instructions are accepted

An instruction is readable if its words do not break the grammar, and then it is in full form.  It is
accepted if moreover its amount and its date, should it have one, are what they ought to be.

Main definitions:

- `Wording.IsFaultless`: the words spell an instruction of the grammar.

Main results:

- Theorem `exists_isSpelled_of_keepsTemplate`: words that keep to the template and are as many as they
  have to be spell an instruction in full form.
- Theorem `exists_reading_of_readable`: a readable instruction is in full form.
- Theorem `breaches_eq_nil_iff_isFaultless`: an instruction is read without a breach exactly when its
  words spell one of the grammar.
-/

namespace FundsTransfer

/-! ## Full form from the template -/

namespace Wording

/-- The wording whose leading account stands first. -/
def ofAccounts (lead : Direction) (amount currency first second : String) (date : Option String) :
    Wording :=
  match lead with
  | .debit => ⟨lead, amount, currency, first, second, date⟩
  | .credit => ⟨lead, amount, currency, second, first, date⟩

/-- The parts of an instruction in full form, one by one. -/
theorem pieces_ofAccounts (lead : Direction) (amount currency first second : String)
    (date : Option String) :
    (ofAccounts lead amount currency first second date).pieces =
      [.keyword lead.keyword, .given amount, .given currency, .keyword lead.preposition,
        .keyword "ACCOUNT", .given first, .keyword "FOR", .keyword lead.opposite.keyword,
        .keyword lead.opposite.preposition, .keyword "ACCOUNT", .given second] ++
      (ofAccounts lead amount currency first second date).datePieces := by
  cases lead <;> rfl

theorem datePieces_ofAccounts_none (lead : Direction) (amount currency first second : String) :
    (ofAccounts lead amount currency first second none).datePieces = [] := by
  cases lead <;> rfl

theorem datePieces_ofAccounts_some (lead : Direction) (amount currency first second date : String) :
    (ofAccounts lead amount currency first second (some date)).datePieces =
      [.keyword "ON", .given date] := by
  cases lead <;> rfl

end Wording

/-- The first word of an instruction that keeps to the template is the keyword of its direction. -/
theorem KeepsTemplate.upper_first {words : List String} (hkeeps : KeepsTemplate words)
    {first : String} (hfirst : words.head? = some first) :
    Text.upper first = (leadOf words).keyword := by
  have hfits := hkeeps 0
  rw [breachAt?, ← List.head?_eq_getElem?, hfirst, Option.bind_some, misfit?] at hfits
  by_cases hdebit : Text.upper first = "DEBIT"
  · simp [leadOf, hfirst, hdebit, Direction.keyword]
  · have hcredit : Text.upper first = "CREDIT" := by
      simpa [hdebit] using hfits
    simp [leadOf, hfirst, hcredit, Direction.keyword]

/-- In words that keep to the template the keyword of a place stands there. -/
theorem KeepsTemplate.upper_eq {words : List String} (hkeeps : KeepsTemplate words)
    (position : Nat) {word expected : String} {breach : Breach}
    (hword : words[position]? = some word)
    (hplace : misfit? (leadOf words) position word = unlessKeyword expected breach word) :
    Text.upper word = expected := by
  have hfits := hkeeps position
  rw [breachAt?, hword, Option.bind_some, hplace] at hfits
  exact unlessKeyword_eq_none_iff.1 hfits

/-- Words that keep to the template spell an instruction in full form, as far as its second account
and, if they go on, also behind it. -/
theorem isSpelled_ofAccounts {direction amount currency preposition account first purpose counter
    other account' second : String} {words tail : List String} {date : Option String}
    (hkeeps : KeepsTemplate words)
    (hwords : words = direction :: amount :: currency :: preposition :: account :: first ::
      purpose :: counter :: other :: account' :: second :: tail)
    (htail : List.Forall₂ Piece.Fits
      (Wording.ofAccounts (leadOf words) amount currency first second date).datePieces tail) :
    (Wording.ofAccounts (leadOf words) amount currency first second date).IsSpelled words := by
  have hdirection := hkeeps.upper_first (by rw [hwords, List.head?_cons])
  have hpreposition := hkeeps.upper_eq 3 (by rw [hwords]; rfl) rfl
  have haccount := hkeeps.upper_eq 4 (by rw [hwords]; rfl) rfl
  have hpurpose := hkeeps.upper_eq 6 (by rw [hwords]; rfl) rfl
  have hcounter := hkeeps.upper_eq 7 (by rw [hwords]; rfl) rfl
  have hother := hkeeps.upper_eq 8 (by rw [hwords]; rfl) rfl
  have haccount' := hkeeps.upper_eq 9 (by rw [hwords]; rfl) rfl
  rw [Wording.IsSpelled, Wording.pieces_ofAccounts]
  generalize leadOf words = lead at *
  subst hwords
  simp only [List.cons_append, List.nil_append, List.forall₂_cons, Piece.Fits, true_and]
  exact ⟨hdirection, hpreposition, haccount, hpurpose, hcounter, hother, haccount', htail⟩

/-- Words that keep to the template spell an instruction in full form if they are as many as one
has. -/
theorem exists_isSpelled_of_keepsTemplate {words : List String} (hkeeps : KeepsTemplate words)
    (hlength : words.length = 11 ∨ words.length = 13) :
    ∃ wording : Wording, wording.IsSpelled words := by
  match words, hlength with
  | [_, amount, currency, _, _, first, _, _, _, _, second], _ =>
      refine ⟨.ofAccounts _ amount currency first second none, isSpelled_ofAccounts hkeeps rfl ?_⟩
      rw [Wording.datePieces_ofAccounts_none]
      exact .nil
  | [_, amount, currency, _, _, first, _, _, _, _, second, on, date], _ =>
      have hon : Text.upper on = "ON" := hkeeps.upper_eq 11 rfl rfl
      refine ⟨.ofAccounts _ amount currency first second date, isSpelled_ofAccounts hkeeps rfl ?_⟩
      rw [Wording.datePieces_ofAccounts_some]
      exact .cons hon (.cons rfl .nil)

/-! ## Readable instructions -/

/-- Words that are read without a breach of the template keep to it. -/
theorem keepsTemplate_of_readable {words : List String} {reading : Reading}
    (hread : Reading.ofWords words = .ok reading)
    (hreadable : ∀ breach ∈ reading.breaches, breach.code.isUnreadable = false) :
    KeepsTemplate words := by
  rcases keepsTemplate_or_breaksFirst words with hkeeps | ⟨position, breach, hfirst⟩
  · exact hkeeps
  · obtain ⟨front, word, later, rfl, rfl, hkeeps, hbreach⟩ := hfirst.exists_eq_append
    have hmem : breach ∈ reading.breaches := by
      rw [breaches_of_breach hkeeps hbreach hread]
      exact List.mem_concat_self
    have hunreadable := isUnreadable_of_breachAt? hbreach
    rw [hreadable breach hmem] at hunreadable
    cases hunreadable

/-- A readable instruction is in full form, and it is read as what its words say. -/
theorem exists_reading_of_readable {words : List String} {reading : Reading}
    (hread : Reading.ofWords words = .ok reading)
    (hreadable : ∀ breach ∈ reading.breaches, breach.code.isUnreadable = false) :
    ∃ (wording : Wording) (amount : Option Nat), wording.IsSpelled words ∧
      readAmount wording.amount = .ok amount ∧ reading = wording.reading amount := by
  have hkeeps := keepsTemplate_of_readable hread hreadable
  have hbreaches := breaches_of_keepsTemplate hkeeps hread
  have hlength : words.length = 11 ∨ words.length = 13 := by
    have hmost := length_le_of_keepsTemplate hkeeps
    by_contra hother
    have hmem : Breach.malformed ∈ reading.breaches := by
      rw [hbreaches, List.mem_append, mem_reportIf]
      exact Or.inr ⟨by omega, rfl⟩
    cases hreadable _ hmem
  obtain ⟨wording, hspelled⟩ := exists_isSpelled_of_keepsTemplate hkeeps hlength
  rw [ofWords_eq_of_isSpelled hspelled] at hread
  obtain ⟨amount, hamount, rfl⟩ := exists_eq_ok_of_map hread
  exact ⟨wording, amount, hspelled, hamount, rfl⟩

/-- An instruction that is rejected but readable is in full form. -/
theorem exists_reading_of_primary? {accounts : List Account} {text : String} {reading : Reading}
    {breach : Breach} (hread : Reading.ofText text = .ok reading)
    (hprimary : primary? (examine accounts reading).breaches = some breach)
    (hreadable : breach.code.isUnreadable = false) :
    ∃ (wording : Wording) (amount : Option Nat), wording.IsSpelled (Text.words text) ∧
      readAmount wording.amount = .ok amount ∧ reading = wording.reading amount := by
  apply exists_reading_of_readable hread
  intro other hother
  apply isUnreadable_eq_false_of_primary? hprimary hreadable
  exact List.mem_append_left _ hother

/-! ## Accepted instructions -/

/-- Some words spell an instruction of the grammar: in full form, with an amount in the amount's place
and with a date in the date's place, if there is one. -/
structure Wording.IsFaultless (wording : Wording) (words : List String) : Prop where
  isSpelled : wording.IsSpelled words
  states_amount : ∃ n, readAmount wording.amount = .ok (some n)
  states_date : ∀ date ∈ wording.date, Calendar.isWellFormedDate date = true

/-- Nothing is reported of an instruction in full form if its amount and its date are ones. -/
theorem breaches_reading_eq_nil_iff {wording : Wording} {amount : Option Nat} :
    (wording.reading amount).breaches = [] ↔
      (∃ n, amount = some n) ∧ ∀ date ∈ wording.date, Calendar.isWellFormedDate date = true := by
  rw [Wording.reading, List.append_eq_nil_iff, reportIf_eq_nil_iff, reportIf_eq_nil_iff,
    ← ne_eq, Option.ne_none_iff_exists']
  cases hdate : wording.date <;> simp [Wording.hasBadDate, hdate]

/-- A good date is read as it stands. -/
theorem executeBy_reading {wording : Wording}
    (hdate : ∀ date ∈ wording.date, Calendar.isWellFormedDate date = true) (amount : Option Nat) :
    (wording.reading amount).executeBy = wording.date := by
  rw [Wording.reading]
  cases hdateOf : wording.date with
  | none => rfl
  | some date => exact Option.filter_some_pos (hdate date hdateOf)

/-- The first word of an instruction in full form is the keyword of its direction. -/
theorem Wording.IsSpelled.upper_head {wording : Wording} {words : List String}
    (hspelled : wording.IsSpelled words) :
    words.head?.map Text.upper = some wording.lead.keyword := by
  rcases hspelled with _ | ⟨hfirst, _⟩
  exact congrArg some hfirst

/-- An instruction is read without a breach if and only if its words spell one of the grammar, and
then each part is read as it stands. -/
theorem breaches_eq_nil_iff_isFaultless {text : String} {reading : Reading}
    (hread : Reading.ofText text = .ok reading) :
    (reading.breaches = [] ↔ ∃ wording : Wording, wording.IsFaultless (Text.words text)) ∧
    ∀ wording : Wording, wording.IsFaultless (Text.words text) →
      reading.heading.map Heading.text = (Text.words text).head?.map Text.upper ∧
      (∃ n, readAmount wording.amount = .ok (some n) ∧ reading.amount = some (n : Int)) ∧
      reading.currency = some (Text.upper wording.currency) ∧
      reading.debitId = some wording.debitId ∧
      reading.creditId = some wording.creditId ∧
      reading.executeBy = wording.date := by
  -- What faultless words are read as, whichever wording they spell.
  have hreading : ∀ wording : Wording, wording.IsFaultless (Text.words text) →
      ∃ n, readAmount wording.amount = .ok (some n) ∧ reading = wording.reading (some n) := by
    intro wording hfaultless
    obtain ⟨n, hamount⟩ := hfaultless.states_amount
    rw [Reading.ofText, ofWords_eq_of_isSpelled hfaultless.isSpelled, hamount] at hread
    cases hread
    exact ⟨n, hamount, rfl⟩
  refine ⟨⟨?_, ?_⟩, ?_⟩
  · intro hnone
    have hreadable : ∀ breach ∈ reading.breaches, breach.code.isUnreadable = false := by
      simp [hnone]
    obtain ⟨wording, amount, hspelled, hamount, rfl⟩ := exists_reading_of_readable hread hreadable
    obtain ⟨⟨n, rfl⟩, hdate⟩ := breaches_reading_eq_nil_iff.1 hnone
    exact ⟨wording, hspelled, ⟨n, hamount⟩, hdate⟩
  · rintro ⟨wording, hfaultless⟩
    obtain ⟨n, _, rfl⟩ := hreading wording hfaultless
    exact breaches_reading_eq_nil_iff.2 ⟨⟨n, rfl⟩, hfaultless.states_date⟩
  · intro wording hfaultless
    obtain ⟨n, hamount, rfl⟩ := hreading wording hfaultless
    refine ⟨hfaultless.isSpelled.upper_head.symm, ⟨n, hamount, rfl⟩, rfl, rfl, rfl, ?_⟩
    exact executeBy_reading hfaultless.states_date (some n)

/-- An instruction on two accounts that are called like keywords, with letters behind its amount and
with a day that its month does not have. -/
def keywordIds : String :=
  "credit +7x gbp to account FOR for debit from account ON on 2025-02-31"

/-- Ids that are keywords are read as ids. -/
theorem breaches_eq_nil_of_keywordIds :
    ∃ reading, Reading.ofText keywordIds = .ok reading ∧ reading.breaches = [] ∧
      reading.heading.map Heading.text = some "CREDIT" ∧ reading.debitId = some "ON" ∧
      reading.creditId = some "FOR" ∧ reading.executeBy = some "2025-02-31" := by
  have hread : Reading.ofText keywordIds =
      .ok ((Wording.mk .credit "+7x" "gbp" "ON" "FOR" (some "2025-02-31")).reading (some 7)) := by
    decide +kernel
  have hspelled : (Wording.mk .credit "+7x" "gbp" "ON" "FOR" (some "2025-02-31")).IsSpelled
      (Text.words keywordIds) := by
    unfold Wording.IsSpelled
    decide +kernel
  have hfaultless : (Wording.mk .credit "+7x" "gbp" "ON" "FOR" (some "2025-02-31")).IsFaultless
      (Text.words keywordIds) :=
    ⟨hspelled, ⟨7, by decide +kernel⟩, by decide +kernel⟩
  obtain ⟨haccepted, hparts⟩ := breaches_eq_nil_iff_isFaultless hread
  obtain ⟨hheading, _, _, hdebit, hcredit, hdate⟩ := hparts _ hfaultless
  have hfirst : (Text.words keywordIds).head?.map Text.upper = some "CREDIT" := by
    decide +kernel
  exact ⟨_, hread, haccepted.2 ⟨_, hfaultless⟩, hheading.trans hfirst, hdebit, hcredit, hdate⟩

end FundsTransfer
