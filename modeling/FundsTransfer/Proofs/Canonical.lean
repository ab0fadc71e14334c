import FundsTransfer.Proofs.Acceptance
import FundsTransfer.Proofs.Amount
import FundsTransfer.Proofs.Forms
import FundsTransfer.Proofs.Uppercase

/-!
# The canonical form of an instruction

An instruction that is read without a breach can be written out again from what was read of it: by the
line of the grammar for its side, with the amount in decimal and the currency in upper case.  This
form is read as the instruction was, so it is final.

Main definitions:

- `Reading.wording?`: the words for the free slots, as far as all of them were read.
- `Reading.text?`: the line of the grammar with its free slots filled from a reading.
- `canonicalText?`: the canonical form of a text.

Main results:

- Theorem `hasWords_of_isSpelled`: the free slots of an instruction in full form are filled by words.
- Theorem `ofText_text_canonical`: an instruction and its canonical form are read alike.
- Theorem `canonical_text_same_reading`: the canonical form is read as the text was, and it is its own
  canonical form.
-/

namespace FundsTransfer

/-! ## Written out from a reading -/

/-- The words for the free slots of an instruction, with the amount in decimal, if a side, an amount, a
currency and two ids were read. -/
def Reading.wording? (reading : Reading) : Option Wording :=
  match reading.heading, reading.amount, reading.currency, reading.debitId, reading.creditId with
  | some (.side lead), some amount, some currency, some debitId, some creditId =>
    some ⟨lead, toString amount, currency, debitId, creditId, reading.executeBy⟩
  | _, _, _, _, _ => none

/-- The line of the grammar for the side of a reading, with its free slots filled; theorems
`Wording.words_ledBy_debit` and `Wording.words_ledBy_credit` spell the two lines out. -/
def Reading.text? (reading : Reading) : Option String :=
  reading.wording?.map Wording.text

/-- The canonical form of a text: its reading, written out. -/
def canonicalText? (text : String) : Option String :=
  match Reading.ofText text with
  | .ok reading => reading.text?
  | .error _ => none

/-- The canonical form of a text that was read. -/
theorem canonicalText?_of_ofText {text : String} {reading : Reading}
    (hread : Reading.ofText text = .ok reading) : canonicalText? text = reading.text? := by
  rw [canonicalText?, hread]

/-! ## Canonical wordings -/

namespace Wording

/-- The instruction with its amount in decimal and its currency in upper case. -/
def canonical (wording : Wording) (n : Nat) : Wording :=
  { wording with amount := toString n, currency := Text.upper wording.currency }

/-- The free slots of an instruction in full form are filled by words. -/
theorem hasWords_of_isSpelled {wording : Wording} {text : String}
    (hspelled : wording.IsSpelled (Text.words text)) : wording.HasWords := by
  have hword : ∀ word, .given word ∈ wording.pieces → Text.IsWord word := by
    intro word hgiven
    exact Text.isWord_of_mem_words (mem_words_of_given_mem hspelled hgiven)
  obtain ⟨hamount, hcurrency, hdebit, hcredit, hdate⟩ := wording.given_mem_pieces
  exact
    { amount := hword _ hamount
      currency := hword _ hcurrency
      debitId := hword _ hdebit
      creditId := hword _ hcredit
      date := fun date hmem => hword _ (hdate date hmem) }

/-- The free slots are filled by words also in the canonical wording. -/
theorem HasWords.canonical {wording : Wording} (hwords : wording.HasWords) (n : Nat) :
    (wording.canonical n).HasWords :=
  { hwords with
    amount := Numeral.isWord_toString n
    currency := Text.isWord_upper hwords.currency }

/-- The canonical wording is read like the wording itself. -/
theorem reading_canonical (wording : Wording) (n : Nat) (amount : Option Nat) :
    (wording.canonical n).reading amount = wording.reading amount := by
  change { wording.reading amount with
    currency := some (Text.upper (Text.upper wording.currency)) } = wording.reading amount
  rw [Text.upper_upper]
  rfl

/-- What was read of an instruction without a breach is the canonical wording. -/
theorem wording?_reading {wording : Wording} {n : Nat}
    (hdate : ∀ date ∈ wording.date, Calendar.isWellFormedDate date = true) :
    (wording.reading (some n)).wording? = some (wording.canonical n) := by
  have hkept : (wording.reading (some n)).executeBy = wording.date :=
    executeBy_reading hdate (some n)
  rw [Reading.wording?, hkept]
  rfl

end Wording

/-! ## Canonical texts -/

/-- An instruction in full form that states an amount is read like its canonical form. -/
theorem ofText_text_canonical {text : String} {wording : Wording} {n : Nat}
    (hspelled : wording.IsSpelled (Text.words text))
    (hamount : readAmount wording.amount = .ok (some n)) :
    Reading.ofText (wording.canonical n).text = .ok (wording.reading (some n)) := by
  have hwords := (Wording.hasWords_of_isSpelled hspelled).canonical n
  have hstated : readAmount (wording.canonical n).amount = .ok (some n) :=
    readAmount_toString (pos_of_readAmount hamount) (isShort_of_readAmount hamount)
  rw [Reading.ofText, ofWords_eq_of_isSpelled hwords.isSpelled_text, hstated, Except.map,
    Wording.reading_canonical]

/-- Every instruction that is read without a breach has a canonical form.  It is read as the
instruction was, part by part, it has the same response, and it is its own canonical form. -/
theorem canonical_text_same_reading {text : String} {reading : Reading}
    (hread : Reading.ofText text = .ok reading) (hnone : reading.breaches = []) :
    ∃ canonical, canonicalText? text = some canonical ∧
      Reading.ofText canonical = .ok reading ∧
      canonicalText? canonical = some canonical ∧
      ∀ (accounts : List Account) (today : Calendar.Date),
        (answerText accounts today canonical).response =
          (answerText accounts today text).response := by
  have hreadable : ∀ breach ∈ reading.breaches, breach.code.isUnreadable = false := by
    simp [hnone]
  obtain ⟨wording, amount, hspelled, hamount, rfl⟩ := exists_reading_of_readable hread hreadable
  obtain ⟨⟨n, rfl⟩, hdate⟩ := breaches_reading_eq_nil_iff.1 hnone
  have hcanonical := ofText_text_canonical hspelled hamount
  have htext : (wording.reading (some n)).text? = some (wording.canonical n).text := by
    rw [Reading.text?, Wording.wording?_reading hdate, Option.map_some]
  refine ⟨(wording.canonical n).text, ?_, hcanonical, ?_, ?_⟩
  · rw [canonicalText?_of_ofText hread, htext]
  · rw [canonicalText?_of_ofText hcanonical, htext]
  · exact response_answerText_congr (hcanonical.trans hread.symm)

/-- A transfer with a sign, zeros and letters around its amount, a currency that grows in upper case
and ids that are keywords. -/
def ornateTransfer : String :=
  "  credit +0070x   Straße TO account ON for Debit from ACCOUNT for on 2025-02-31 "

/-- It comes to a plain line of the grammar. -/
theorem ornateTransfer_made_plain :
    canonicalText? ornateTransfer =
        some "CREDIT 70 STRASSE TO ACCOUNT ON FOR DEBIT FROM ACCOUNT for ON 2025-02-31" ∧
      Reading.ofText
          "CREDIT 70 STRASSE TO ACCOUNT ON FOR DEBIT FROM ACCOUNT for ON 2025-02-31" =
        Reading.ofText ornateTransfer := by
  have hread : Reading.ofText ornateTransfer =
      .ok ((Wording.mk .credit "+0070x" "Straße" "for" "ON" (some "2025-02-31")).reading
        (some 70)) := by
    decide +kernel
  have hform : canonicalText? ornateTransfer =
      some "CREDIT 70 STRASSE TO ACCOUNT ON FOR DEBIT FROM ACCOUNT for ON 2025-02-31" := by
    decide +kernel
  obtain ⟨canonical, hcanonical, hsame, _⟩ :=
    canonical_text_same_reading hread (by decide +kernel)
  rw [hform, Option.some.injEq] at hcanonical
  subst hcanonical
  exact ⟨hform, hsame.trans hread.symm⟩

end FundsTransfer
