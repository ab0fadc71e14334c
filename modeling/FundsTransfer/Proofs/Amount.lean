import Mathlib.Data.List.TakeWhile
import FundsTransfer.Instruction.Progress
import FundsTransfer.Proofs.Calendar
import FundsTransfer.Proofs.Progress
import FundsTransfer.Proofs.Text

/-!
# Words that state an amount

A word states an amount if it opens with a numeral: a sign or none, and then digits, as many as there
are.  Whatever follows the digits does not count, but the word must not have a point.  A numeral with a
minus sign and one of zeros only state no amount, and one that is too long cannot be read.

Main definitions:

- `OpensWithNumeral`: a word opens with a sign, or none, and with digits.
- `StatesAmount`: a word states a number as its amount.
- `IsOverlong`: a word opens with a numeral that is too long to be read.

Main results:

- Theorem `readAmount_of_opensWithNumeral`: what a word is read as that opens with a numeral.
- Theorem `isShort_of_readAmount`: an amount that was read may be written in decimal.
- Theorem `readAmount_toString_append`: a number that is written in decimal is read as it was, whatever
  follows it.
- Theorem `readAmount_trichotomy`: the words that state an amount, those that cannot be read and those
  that state none.
-/

namespace FundsTransfer

/-! ## Numbers in decimal -/

namespace Numeral

theorem toList_toString (n : Nat) : (toString n).toList = Nat.toDigits 10 n := by
  change n.repr.toList = _
  rw [Nat.repr_eq_ofList_toDigits, String.toList_ofList]

/-- A number in decimal is written with digits only. -/
theorem isDigit_of_mem_toString {n : Nat} {c : Char} (hc : c ∈ (toString n).toList) :
    c.isDigit = true := by
  rw [toList_toString] at hc
  exact Nat.isDigit_of_mem_toDigits (by decide) (by decide) hc

/-- A number in decimal has at least one digit. -/
theorem toString_ne_empty (n : Nat) : toString n ≠ "" := by
  intro hempty
  apply Nat.toDigits_ne_nil (n := n) (b := 10)
  rw [← toList_toString, hempty]
  rfl

/-- No digit divides words. -/
theorem isSeparator_eq_false_of_isDigit {c : Char} (hdigit : c.isDigit = true) :
    Text.isSeparator c = false := by
  have hrange : 48 ≤ c.toNat ∧ c.toNat ≤ 57 := Char.isDigit_iff_toNat.1 hdigit
  have hinformation : Text.isInformationSeparator c = false := by
    rw [Text.isInformationSeparator, Bool.and_eq_false_iff, decide_eq_false_iff_not,
      decide_eq_false_iff_not]
    omega
  rw [Text.isSeparator, isBlank_eq_false_of_isDigit hdigit, hinformation, Bool.or_false]

/-- A number in decimal may be a word. -/
theorem isWord_toString (n : Nat) : Text.IsWord (toString n) :=
  ⟨toString_ne_empty n, fun _ hc => isSeparator_eq_false_of_isDigit (isDigit_of_mem_toString hc)⟩

/-- The numbers that are not too long for a numeral are those below a power of ten. -/
theorem isShort_iff {n : Nat} : IsShort n ↔ n < 10 ^ digitLimit := by
  rw [IsShort, ← String.length_toList, toList_toString,
    Nat.length_toDigits_le_iff (by decide) (by decide)]

/-- A debt of this size is too long for a numeral. -/
theorem not_isShort_debt : ¬ IsShort (-(10 ^ digitLimit : Nat) : Int).natAbs := by
  rw [isShort_iff, Int.natAbs_neg, Int.natAbs_natCast]
  exact Nat.lt_irrefl _

/-- Such a debt covers no amount. -/
theorem debt_lt {amount : Int} (hamount : 0 < amount) :
    (-(10 ^ digitLimit : Nat) : Int) < amount :=
  Int.lt_of_le_of_lt (Int.neg_nonpos_of_nonneg (Int.natCast_nonneg _)) hamount

/-- A number is not longer than a greater one. -/
theorem IsShort.of_le {n m : Nat} (hshort : IsShort m) (hle : n ≤ m) : IsShort n :=
  isShort_iff.2 (Nat.lt_of_le_of_lt hle (isShort_iff.1 hshort))

end Numeral

/-! ## Words that open with a numeral -/

/-- A word opens with a numeral: behind a sign or none there are digits, and what follows these does
not go on with one.  There is no point anywhere. -/
structure OpensWithNumeral (word : String) (sign digits : List Char) : Prop where
  no_point : '.' ∉ word.toList
  sign_mem : sign ∈ [[], ['+'], ['-']]
  ne_nil : digits ≠ []
  isDigit : ∀ c ∈ digits, c.isDigit = true
  exists_rest : ∃ rest, word.toList = sign ++ (digits ++ rest) ∧
    ∀ c ∈ rest.head?, c.isDigit = false

/-- A word is its sign, if it has one, and the rest of it. -/
theorem eq_append_withoutSign (text : List Char) :
    ∃ sign ∈ [[], ['+'], ['-']], text = sign ++ (withoutSign text).2 := by
  unfold withoutSign
  split
  · exact ⟨['+'], by simp, rfl⟩
  · exact ⟨['-'], by simp, rfl⟩
  · exact ⟨[], by simp, rfl⟩

/-- Without the sign of a numeral its digits are left. -/
theorem withoutSign_append {sign : List Char} (hsign : sign ∈ [[], ['+'], ['-']]) {c : Char}
    (hdigit : c.isDigit = true) (rest : List Char) :
    withoutSign (sign ++ c :: rest) = (sign == ['-'], c :: rest) := by
  simp only [List.mem_cons, List.not_mem_nil, or_false] at hsign
  rcases hsign with rfl | rfl | rfl
  · unfold withoutSign
    split
    · rename_i hplus
      cases hplus
      cases hdigit
    · rename_i hminus
      cases hminus
      cases hdigit
    · rfl
  · rfl
  · rfl

/-- The leading digits of a text are the digits up to the first other character. -/
theorem leadingDigits_append {digits rest : List Char} (hdigits : ∀ c ∈ digits, c.isDigit = true)
    (hrest : ∀ c ∈ rest.head?, c.isDigit = false) :
    Numeral.leadingDigits (digits ++ rest) = digits := by
  have hnone : rest.takeWhile Char.isDigit = [] := by
    cases rest with
    | nil => rfl
    | cons c later => rw [List.takeWhile_cons_of_neg (by simp [hrest c rfl])]
  rw [Numeral.leadingDigits, List.takeWhile_append_of_pos hdigits, hnone, List.append_nil]

/-- What follows the leading digits of a text does not go on with a digit. -/
theorem isDigit_head?_dropWhile (text : List Char) :
    ∀ c ∈ (text.dropWhile Char.isDigit).head?, c.isDigit = false := by
  intro c hc
  have hnot := List.head?_dropWhile_not Char.isDigit text
  rw [hc] at hnot
  exact hnot

/-- What a word is read as that opens with a numeral. -/
theorem readAmount_of_opensWithNumeral {word : String} {sign digits : List Char}
    (hopens : OpensWithNumeral word sign digits) :
    readAmount word =
      if Numeral.digitLimit < digits.length then .error (.numeralTooLong digits.length)
      else .ok (if sign = ['-'] ∨ Numeral.value digits = 0 then none
        else some (Numeral.value digits)) := by
  rcases hopens.exists_rest with ⟨rest, hword, hrest⟩
  have hleading := leadingDigits_append hopens.isDigit hrest
  have hsigned : withoutSign word.toList = (sign == ['-'], digits ++ rest) := by
    cases digits with
    | nil => exact absurd rfl hopens.ne_nil
    | cons c later =>
        rw [hword]
        exact withoutSign_append hopens.sign_mem (hopens.isDigit c List.mem_cons_self) _
  rw [readAmount, if_neg hopens.no_point, hsigned]
  simp only [hleading, gt_iff_lt, Bool.or_eq_true, beq_iff_eq]

/-- A word opens with a numeral, or it states no amount. -/
theorem opensWithNumeral_or_readAmount_eq (word : String) :
    (∃ sign digits, OpensWithNumeral word sign digits) ∨ readAmount word = .ok none := by
  by_cases hpoint : '.' ∈ word.toList
  · exact Or.inr (if_pos hpoint)
  · by_cases hdigits : Numeral.leadingDigits (withoutSign word.toList).2 = []
    · refine Or.inr ?_
      rw [readAmount, if_neg hpoint]
      simp [hdigits]
    · rcases eq_append_withoutSign word.toList with ⟨sign, hsign, hword⟩
      refine Or.inl ⟨sign, _, hpoint, hsign, hdigits, List.all_eq_true.1 List.all_takeWhile,
        (withoutSign word.toList).2.dropWhile Char.isDigit, ?_, isDigit_head?_dropWhile _⟩
      rw [Numeral.leadingDigits, List.takeWhile_append_dropWhile]
      exact hword

/-! ## Three kinds of words -/

/-- A word states a number as its amount: it opens with the numeral of this number, which is positive,
behind a plus sign or none, and which has no more digits than a numeral may have. -/
structure StatesAmount (word : String) (n : Int) : Prop where
  pos : 0 < n
  exists_numeral : ∃ sign ∈ [[], ['+']], ∃ digits, OpensWithNumeral word sign digits ∧
    digits.length ≤ Numeral.digitLimit ∧ (Numeral.value digits : Int) = n

/-- A word opens with a numeral that is too long to be read: it has no point, and behind at most one
sign it starts with more digits than a numeral may have. -/
structure IsOverlong (word : String) : Prop where
  no_point : '.' ∉ word.toList
  exists_digits : ∃ sign digits rest, word.toList = sign ++ (digits ++ rest) ∧
    sign ∈ [[], ['+'], ['-']] ∧ (∀ c ∈ digits, c.isDigit = true) ∧
    Numeral.digitLimit < digits.length

/-- A word is overlong if all the digits that it opens with are too many. -/
theorem isOverlong_iff {word : String} :
    IsOverlong word ↔
      ∃ sign digits, OpensWithNumeral word sign digits ∧ Numeral.digitLimit < digits.length := by
  constructor
  · rintro ⟨hpoint, sign, digits, rest, hword, hsign, hdigits, hlong⟩
    have hlength : digits.length ≤ (digits ++ rest.takeWhile Char.isDigit).length := by
      rw [List.length_append]
      exact Nat.le_add_right _ _
    refine ⟨sign, digits ++ rest.takeWhile Char.isDigit,
      ⟨hpoint, hsign, List.ne_nil_of_length_pos (by omega), ?_, rest.dropWhile Char.isDigit, ?_,
        isDigit_head?_dropWhile rest⟩, by omega⟩
    · intro c hc
      rcases List.mem_append.1 hc with hfront | hmore
      · exact hdigits c hfront
      · exact List.mem_takeWhile_imp hmore
    · rw [List.append_assoc, List.takeWhile_append_dropWhile]
      exact hword
  · rintro ⟨sign, digits, hopens, hlong⟩
    rcases hopens.exists_rest with ⟨rest, hword, -⟩
    exact ⟨hopens.no_point, sign, digits, rest, hword, hopens.sign_mem, hopens.isDigit, hlong⟩

/-- A word cannot be read as an amount exactly if it is overlong, and what is reported is the number
of its digits. -/
theorem readAmount_eq_error_iff {word : String} {fault : Fault} :
    readAmount word = .error fault ↔
      ∃ sign digits, OpensWithNumeral word sign digits ∧ Numeral.digitLimit < digits.length ∧
        fault = .numeralTooLong digits.length := by
  constructor
  · intro hfault
    rcases opensWithNumeral_or_readAmount_eq word with ⟨sign, digits, hopens⟩ | hnone
    · rw [readAmount_of_opensWithNumeral hopens] at hfault
      split at hfault
      · rename_i hlong
        cases hfault
        exact ⟨sign, digits, hopens, hlong, rfl⟩
      · cases hfault
    · rw [hnone] at hfault
      cases hfault
  · rintro ⟨sign, digits, hopens, hlong, rfl⟩
    rw [readAmount_of_opensWithNumeral hopens, if_pos hlong]

/-- A word is read as an amount exactly if it states it. -/
theorem readAmount_eq_some_iff {word : String} {n : Nat} :
    readAmount word = .ok (some n) ↔ StatesAmount word n := by
  constructor
  · intro hread
    rcases opensWithNumeral_or_readAmount_eq word with ⟨sign, digits, hopens⟩ | hnone
    · rw [readAmount_of_opensWithNumeral hopens] at hread
      split at hread
      · cases hread
      · rename_i hshort
        split at hread
        · cases hread
        · rename_i hproper
          cases hread
          rw [not_or] at hproper
          refine ⟨Int.natCast_pos.2 (Nat.pos_of_ne_zero hproper.2), sign, ?_, digits, hopens,
            Nat.not_lt.1 hshort, rfl⟩
          have hsign := hopens.sign_mem
          simp only [List.mem_cons, List.not_mem_nil, or_false] at hsign ⊢
          exact hsign.imp_right fun hother => hother.resolve_right hproper.1
    · rw [hnone] at hread
      cases hread
  · rintro ⟨hpos, sign, hsign, digits, hopens, hshort, hvalue⟩
    have hplus : sign ≠ ['-'] := by
      rintro rfl
      simp at hsign
    have hn : Numeral.value digits = n := Int.ofNat.inj hvalue
    rw [readAmount_of_opensWithNumeral hopens, if_neg (Nat.not_lt.2 hshort), hn,
      if_neg (by rw [not_or]; exact ⟨hplus, by omega⟩)]

/-- An amount that was read is not too long to be written in decimal. -/
theorem isShort_of_readAmount {word : String} {n : Nat} (hread : readAmount word = .ok (some n)) :
    Numeral.IsShort n := by
  rcases (readAmount_eq_some_iff.1 hread).exists_numeral with
    ⟨sign, -, digits, hopens, hshort, hvalue⟩
  have hlt := Numeral.value_lt_pow hopens.isDigit
  have hpow := Nat.pow_le_pow_right (n := 10) (by decide) hshort
  rw [Int.ofNat.inj hvalue] at hlt
  exact Numeral.isShort_iff.2 (Nat.lt_of_lt_of_le hlt hpow)

/-- An amount that was read of an instruction is not too long to be written in decimal. -/
theorem isShort_of_ofText {text : String} {reading : Reading}
    (hread : Reading.ofText text = .ok reading) :
    ∀ amount ∈ reading.amount, Numeral.IsShort amount.natAbs := by
  intro amount hamount
  obtain ⟨word, n, hword, rfl⟩ := exists_readAmount_of_ofText hread hamount
  exact isShort_of_readAmount hword

/-- A number that is written in decimal opens what is written behind it, unless that goes on with a
digit or has a point. -/
theorem opensWithNumeral_toString_append (n : Nat) {suffix : String}
    (hpoint : '.' ∉ suffix.toList) (hsuffix : ∀ c ∈ suffix.toList.head?, c.isDigit = false) :
    OpensWithNumeral (toString n ++ suffix) [] (Nat.toDigits 10 n) := by
  have hdigits : ∀ c ∈ Nat.toDigits 10 n, c.isDigit = true :=
    fun _ hc => Nat.isDigit_of_mem_toDigits (by decide) (by decide) hc
  have hword : (toString n ++ suffix).toList = Nat.toDigits 10 n ++ suffix.toList := by
    rw [String.toList_append, Numeral.toList_toString]
  refine ⟨?_, by simp, Nat.toDigits_ne_nil, hdigits, suffix.toList, hword, hsuffix⟩
  rw [hword, List.mem_append, not_or]
  refine ⟨?_, hpoint⟩
  intro hmem
  cases hdigits '.' hmem

/-- A number that is written in decimal is read as it was, whatever follows it. -/
theorem readAmount_toString_append {n : Nat} (hpos : 0 < n) (hshort : Numeral.IsShort n)
    {suffix : String} (hpoint : '.' ∉ suffix.toList)
    (hsuffix : ∀ c ∈ suffix.toList.head?, c.isDigit = false) :
    readAmount (toString n ++ suffix) = .ok (some n) := by
  rw [Numeral.IsShort, ← String.length_toList, Numeral.toList_toString] at hshort
  exact readAmount_eq_some_iff.2 ⟨Int.natCast_pos.2 hpos, [], by simp, _,
    opensWithNumeral_toString_append n hpoint hsuffix, hshort, by rw [Numeral.value_toDigits]⟩

/-- A number that is written in decimal is the amount that its numeral states. -/
theorem readAmount_toString {n : Nat} (hpos : 0 < n) (hshort : Numeral.IsShort n) :
    readAmount (toString n) = .ok (some n) := by
  have hread : readAmount (toString n ++ "") = .ok (some n) :=
    readAmount_toString_append hpos hshort (by simp) (by simp)
  rwa [String.append_empty] at hread

/-- The integer that a word is read as, if it is read as one, is the amount that it states. -/
theorem map_readAmount_eq_some_iff {word : String} {n : Int} :
    (readAmount word).map (Option.map Int.ofNat) = .ok (some n) ↔ StatesAmount word n := by
  constructor
  · intro hread
    rcases exists_eq_ok_of_map hread with ⟨stated, hstated, hsome⟩
    rcases Option.map_eq_some_iff.1 hsome with ⟨m, rfl, rfl⟩
    exact readAmount_eq_some_iff.1 hstated
  · intro hstated
    rcases Int.eq_ofNat_of_zero_le (Int.le_of_lt hstated.pos) with ⟨m, rfl⟩
    rw [readAmount_eq_some_iff.2 hstated]
    rfl

/-- The words that cannot be read as an amount are the overlong ones. -/
theorem exists_readAmount_eq_error_iff {word : String} :
    (∃ fault, readAmount word = .error fault) ↔ IsOverlong word := by
  rw [isOverlong_iff]
  constructor
  · rintro ⟨fault, hfault⟩
    rcases readAmount_eq_error_iff.1 hfault with ⟨sign, digits, hopens, hlong, -⟩
    exact ⟨sign, digits, hopens, hlong⟩
  · rintro ⟨sign, digits, hopens, hlong⟩
    exact ⟨_, readAmount_eq_error_iff.2 ⟨sign, digits, hopens, hlong, rfl⟩⟩

/-- All other words state no amount. -/
theorem readAmount_eq_none_iff {word : String} :
    readAmount word = .ok none ↔ (∀ n, ¬ StatesAmount word n) ∧ ¬ IsOverlong word := by
  rw [← exists_readAmount_eq_error_iff]
  constructor
  · intro hnone
    constructor
    · intro n hstated
      have hsome := map_readAmount_eq_some_iff.2 hstated
      rw [hnone] at hsome
      cases hsome
    · rintro ⟨fault, hfault⟩
      rw [hnone] at hfault
      cases hfault
  · rintro ⟨hnumber, hfault⟩
    cases hread : readAmount word with
    | error fault => exact absurd ⟨fault, hread⟩ hfault
    | ok stated =>
        cases stated with
        | none => rfl
        | some n => exact absurd (readAmount_eq_some_iff.1 hread) (hnumber n)

/-- The three kinds of words.  A word states an amount, and is read as it; or it is overlong, and is
refused with the number of its digits; or it is read as none.  In particular a positive number that is
written in decimal and is not too long is read as it was, whatever follows it without a point and
without going on with a digit. -/
theorem readAmount_trichotomy :
    (∀ word : String,
      (∀ n : Int, (readAmount word).map (Option.map Int.ofNat) = .ok (some n) ↔
        StatesAmount word n) ∧
      ((∃ fault, readAmount word = .error fault) ↔ IsOverlong word) ∧
      (∀ fault, readAmount word = .error fault →
        ∃ sign digits, OpensWithNumeral word sign digits ∧ fault = .numeralTooLong digits.length ∧
          fault.message =
            digitLimitMessage (": value has " ++ toString digits.length ++ " digits")) ∧
      (readAmount word = .ok none ↔ (∀ n, ¬ StatesAmount word n) ∧ ¬ IsOverlong word)) ∧
    ∀ (n : Nat) (suffix : String), 0 < n → Numeral.IsShort n → '.' ∉ suffix.toList →
      (∀ c ∈ suffix.toList.head?, c.isDigit = false) →
      readAmount (toString n ++ suffix) = .ok (some n) := by
  constructor
  · intro word
    refine ⟨fun n => map_readAmount_eq_some_iff, exists_readAmount_eq_error_iff, ?_,
      readAmount_eq_none_iff⟩
    intro fault hfault
    rcases readAmount_eq_error_iff.1 hfault with ⟨sign, digits, hopens, -, rfl⟩
    exact ⟨sign, digits, hopens, rfl, rfl⟩
  · intro n suffix hpos hshort hpoint hsuffix
    exact readAmount_toString_append hpos hshort hpoint hsuffix

/-- A word of one digit more than a numeral may have, behind a minus sign. -/
def sevens : String :=
  String.ofList ('-' :: List.replicate (Numeral.digitLimit + 1) '7')

/-- The word opens with all of its digits. -/
theorem opensWithNumeral_sevens :
    OpensWithNumeral sevens ['-'] (List.replicate (Numeral.digitLimit + 1) '7') := by
  have hdigits : ∀ c ∈ List.replicate (Numeral.digitLimit + 1) '7', c.isDigit = true := by
    intro c hc
    rw [List.eq_of_mem_replicate hc]
    rfl
  have hword : sevens.toList = '-' :: List.replicate (Numeral.digitLimit + 1) '7' :=
    String.toList_ofList
  refine ⟨?_, by decide, List.cons_ne_nil _ _, hdigits, [], ?_, by simp⟩
  · rw [hword, List.mem_cons, not_or]
    refine ⟨by decide, ?_⟩
    intro hmem
    cases hdigits '.' hmem
  · rw [hword, List.append_nil]
    rfl

/-- A numeral counts with its zeros and without its plus sign, a minus sign does not make up for too
many digits, and a number may be written in front of letters. -/
theorem readAmount_of_signed :
    (readAmount "+0042USD").map (Option.map Int.ofNat) = .ok (some 42) ∧
      (∃ fault sign digits, readAmount sevens = .error fault ∧
        OpensWithNumeral sevens sign digits ∧ fault = .numeralTooLong digits.length) ∧
      readAmount (toString 30 ++ "USD") = .ok (some 30) := by
  have hletters : ∀ c ∈ "USD".toList.head?, c.isDigit = false := by
    rintro c ⟨⟩
    rfl
  have hopens : OpensWithNumeral "+0042USD" ['+'] ['0', '0', '4', '2'] :=
    ⟨by decide, by decide, by decide, List.all_eq_true.1 rfl, "USD".toList, by decide, hletters⟩
  have hstates : StatesAmount "+0042USD" 42 :=
    ⟨by decide, ['+'], by decide, _, hopens, by decide, by decide⟩
  have hlong : Numeral.digitLimit < (List.replicate (Numeral.digitLimit + 1) '7').length := by
    rw [List.length_replicate]
    exact Nat.lt_succ_self _
  have hoverlong : IsOverlong sevens := isOverlong_iff.2 ⟨_, _, opensWithNumeral_sevens, hlong⟩
  rcases (readAmount_trichotomy.1 sevens).2.1.2 hoverlong with ⟨fault, hfault⟩
  rcases (readAmount_trichotomy.1 sevens).2.2.1 fault hfault with ⟨sign, digits, hsevens, hkind, -⟩
  refine ⟨((readAmount_trichotomy.1 "+0042USD").1 42).2 hstates,
    ⟨fault, sign, digits, hfault, hsevens, hkind⟩, ?_⟩
  have hshort : Numeral.IsShort 30 := by
    unfold Numeral.IsShort
    decide
  exact readAmount_trichotomy.2 30 "USD" (by decide) hshort (by decide) hletters

end FundsTransfer
