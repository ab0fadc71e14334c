import FundsTransfer.Proofs.Progress
import FundsTransfer.Proofs.Wording

/-!
# Letter case

Keywords and currencies may be written in any letters that come to the same upper case.  What stands in
the free slots of an instruction, its amount, its two ids and its date, is read as it stands.

Main definitions:

- `freePositions`: the positions of the free slots.
- `AlikeAt`, `AlikeButForCase`: words that differ in the letter case of keywords and currencies only.

Main results:

- Theorem `read_congr`: words that are alike do the same at the stage of their position.
- Theorem `advance_congr`: lists of such words are read in step, from whatever stage on.
- Theorem `ofWords_eq_of_alikeButForCase`: instructions that are alike but for letter case are read
  alike, while ids count letter by letter.
-/

namespace FundsTransfer

/-! ## Words that are alike -/

/-- The positions of the words that are read as they stand: the amount, the two ids and the date. -/
def freePositions : List Nat :=
  [1, 5, 10, 12]

/-- Two words are alike at a position: they are the same in a free slot, and elsewhere they come to the
same upper case. -/
def AlikeAt (position : Nat) (word other : String) : Prop :=
  if position ∈ freePositions then word = other else Text.upper word = Text.upper other

instance (position : Nat) (word other : String) : Decidable (AlikeAt position word other) :=
  inferInstanceAs
    (Decidable (if position ∈ freePositions then word = other else Text.upper word = Text.upper other))

/-- Two lists of words differ in the letter case of keywords and currencies only. -/
structure AlikeButForCase (words others : List String) : Prop where
  length_eq : words.length = others.length
  alikeAt : ∀ position (hword : position < words.length) (hother : position < others.length),
    AlikeAt position words[position] others[position]

/-- A word in such a slot is read as it stands. -/
def Slot.isFree : Slot → Bool
  | .amount => true
  | .account _ => true
  | .date => true
  | _ => false

/-- The free slots stand at the free positions. -/
theorem isFree_slot_iff (stage : Stage) :
    stage.slot.isFree = true ↔ stage.position ∈ freePositions := by
  cases stage <;> decide

/-! ## Reading in step -/

/-- Words that are alike at a position do the same at its stage. -/
theorem read_congr {stage : Stage} {word other : String}
    (halike : AlikeAt stage.position word other) (reading : Reading) :
    stage.read word reading = stage.read other reading := by
  unfold AlikeAt at halike
  by_cases hposition : stage.position ∈ freePositions
  · rw [if_pos hposition] at halike
    rw [halike]
  · rw [if_neg hposition] at halike
    have hfree : stage.slot.isFree ≠ true := mt (isFree_slot_iff stage).1 hposition
    unfold Stage.read
    -- What is left are the slots that look at the upper case of a word, or at no word.
    cases hslot : stage.slot with
    | direction => simp only [halike]
    | currency => simp only [halike]
    | keyword expected breach => simp only [halike]
    | nothing => rfl
    | _ => exact absurd (by rw [hslot]; rfl) hfree

/-- Lists of words that are alike from a position on are read in step from its stage on. -/
theorem advance_congr {stage : Stage} {reading : Reading} {words others : List String}
    (hlength : words.length = others.length)
    (halike : ∀ offset (hword : offset < words.length) (hother : offset < others.length),
      AlikeAt (stage.position + offset) words[offset] others[offset]) :
    advance stage reading words = advance stage reading others := by
  induction words generalizing others stage reading with
  | nil => rw [List.length_eq_zero_iff.1 hlength.symm]
  | cons word rest ih =>
      cases others with
      | nil => cases hlength
      | cons other later =>
          have hword : stage.read word reading = stage.read other reading :=
            read_congr (halike 0 (Nat.zero_lt_succ _) (Nat.zero_lt_succ _)) reading
          simp only [advance, hword]
          split
          · rename_i next reached hread
            apply ih (Nat.succ.inj hlength)
            intro offset hoffset hother
            have hrest := halike (offset + 1) (Nat.succ_lt_succ hoffset) (Nat.succ_lt_succ hother)
            rw [position_of_read hread rfl, Nat.add_right_comm]
            exact hrest
          · rfl
          · rfl

/-- Two instructions in full form that are read alike name the same ids, letter by letter. -/
theorem ids_eq_of_isSpelled {words others : List String} {wording other : Wording}
    {reading : Reading} (hspelled : wording.IsSpelled words) (hother : other.IsSpelled others)
    (hread : Reading.ofWords words = .ok reading)
    (hreadOther : Reading.ofWords others = .ok reading) :
    wording.debitId = other.debitId ∧ wording.creditId = other.creditId := by
  rw [ofWords_eq_of_isSpelled hspelled] at hread
  rw [ofWords_eq_of_isSpelled hother] at hreadOther
  rcases exists_eq_ok_of_map hread with ⟨amount, _, rfl⟩
  rcases exists_eq_ok_of_map hreadOther with ⟨otherAmount, _, hsame⟩
  exact ⟨Option.some.inj (congrArg Reading.debitId hsame).symm,
    Option.some.inj (congrArg Reading.creditId hsame).symm⟩

/-- Letter case counts in the free slots only.  Instructions that are the same there, and elsewhere
alike but for letter case, are read alike, down to the fault if they cannot be read.  In the id slots
every letter counts: instructions in full form with other ids are not read alike. -/
theorem ofWords_eq_of_alikeButForCase (words others : List String) :
    (AlikeButForCase words others → Reading.ofWords words = Reading.ofWords others) ∧
    ∀ wording other : Wording, wording.IsSpelled words → other.IsSpelled others →
      (∃ reading, Reading.ofWords words = .ok reading) →
      wording.debitId ≠ other.debitId ∨ wording.creditId ≠ other.creditId →
      Reading.ofWords words ≠ Reading.ofWords others := by
  constructor
  · intro halike
    have hadvance : advance .start {} words = advance .start {} others := by
      apply advance_congr halike.length_eq
      intro offset hword hother
      have hstart : Stage.start.position + offset = offset := Nat.zero_add offset
      rw [hstart]
      exact halike.alikeAt offset hword hother
    rw [Reading.ofWords, Reading.ofWords, readFrom, readFrom, hadvance]
  · intro wording other hspelled hother hreads hids hsame
    rcases hreads with ⟨reading, hread⟩
    rcases ids_eq_of_isSpelled hspelled hother hread (hsame ▸ hread) with ⟨hdebit, hcredit⟩
    rcases hids with hne | hne
    · exact hne hdebit
    · exact hne hcredit

/-- A transfer in plain capitals from an account with a given id. -/
def plainTransfer (debitId : String) : List String :=
  ["DEBIT", "30", "USD", "FROM", "ACCOUNT", debitId, "FOR", "CREDIT", "TO", "ACCOUNT", "b"]

/-- A transfer with a dotless i in both directions and a long s in the currency. -/
def oddLetteredTransfer : List String :=
  ["deb\u0131t", "30", "u\u017Fd", "from", "Account", "a", "foR", "cred\u0131t", "tO", "accounT",
    "b"]

/-- The odd letters come to the same upper case, so they make no difference; a capital in an id
does. -/
theorem ofWords_oddLetteredTransfer :
    Reading.ofWords oddLetteredTransfer = Reading.ofWords (plainTransfer "a") ∧
      Reading.ofWords (plainTransfer "a") ≠ Reading.ofWords (plainTransfer "A") := by
  have halike : AlikeButForCase oddLetteredTransfer (plainTransfer "a") :=
    ⟨rfl, by decide +kernel⟩
  have hsmall : (Wording.mk .debit "30" "USD" "a" "b" none).IsSpelled (plainTransfer "a") := by
    unfold Wording.IsSpelled
    decide +kernel
  have hcapital : (Wording.mk .debit "30" "USD" "A" "b" none).IsSpelled (plainTransfer "A") := by
    unfold Wording.IsSpelled
    decide +kernel
  exact ⟨(ofWords_eq_of_alikeButForCase _ _).1 halike,
    (ofWords_eq_of_alikeButForCase _ _).2 _ _ hsmall hcapital ⟨_, rfl⟩ (Or.inl (by decide))⟩

end FundsTransfer
