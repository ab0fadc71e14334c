import FundsTransfer.Proofs.Text

/-!
# Upper case is final

A text in upper case stays as it is when it is put in upper case again.  For the letters that are
written out in several characters, and for those of ASCII, this can be seen one by one.  For the runs
of letters it is seen run by run: the capitals of a run are a run themselves, and no run of the table
meets it.  In the same way it is seen that upper case does not divide words.

Main definitions:

- `CaseRun.capitals`: the capitals of a run.
- `CaseRun.isApartFrom`: runs without a common letter, as can be told from their ends.
- `separatorRuns`: the characters that divide words, as runs.

Main results:

- Theorem `upperChar_of_mem_upperChar`: a character that stands in an upper-case form is its own.
- Theorem `upper_upper`: upper case is final.
- Theorem `isWord_upper`: a word in upper case is a word.
-/

namespace FundsTransfer.Text

/-! ## Runs that do not meet -/

namespace CaseRun

/-- The capitals of a run, as a run of their own. -/
def capitals (run : CaseRun) : CaseRun :=
  { run with first := run.capital, last := run.capitalOf run.last }

/-- The letters of a run are all even or all odd. -/
def keepsParity (run : CaseRun) : Bool :=
  Nat.beq run.step 2 || Nat.beq run.first run.last

/-- One of two runs ends before the other one begins, or one is even and the other one is odd. -/
def isApartFrom (run other : CaseRun) : Bool :=
  Nat.blt run.last other.first || Nat.blt other.last run.first ||
    (run.keepsParity && other.keepsParity && !Nat.beq (run.first % 2) (other.first % 2))

variable {run other : CaseRun} {code : Nat}

/-- A letter of a run lies between its ends and on its pace. -/
theorem contains_iff :
    run.contains code = true ↔
      run.first ≤ code ∧ code ≤ run.last ∧ (code - run.first) % run.step = 0 := by
  simp [contains, and_assoc]

/-- A run at the pace of one has all codes between its ends. -/
theorem contains_of_le {first last capital : Nat} (hfirst : first ≤ code) (hlast : code ≤ last) :
    contains ⟨first, last, 1, capital⟩ code = true :=
  contains_iff.2 ⟨hfirst, hlast, Nat.mod_one _⟩

/-- The letters of an even run are even, and those of an odd one are odd. -/
theorem mod_two_of_contains (hparity : run.keepsParity = true)
    (hcontains : run.contains code = true) : code % 2 = run.first % 2 := by
  rw [contains_iff] at hcontains
  rcases hcontains with ⟨hfirst, hlast, hpace⟩
  simp only [keepsParity, Bool.or_eq_true, Nat.beq_eq] at hparity
  rcases hparity with hstep | hsingle
  · rw [hstep] at hpace
    omega
  · omega

/-- Runs that are apart have no letter in common. -/
theorem contains_eq_false_of_isApartFrom (hapart : run.isApartFrom other = true)
    (hcontains : run.contains code = true) : other.contains code = false := by
  rw [Bool.eq_false_iff]
  intro hother
  have hrun := contains_iff.1 hcontains
  have hbounds := contains_iff.1 hother
  simp only [isApartFrom, Bool.or_eq_true, Bool.and_eq_true, Nat.blt_eq, Bool.not_eq_true',
    ← Bool.not_eq_true, Nat.beq_eq] at hapart
  rcases hapart with (hbefore | hbehind) | ⟨⟨hparity, hotherParity⟩, hne⟩
  · omega
  · omega
  · have hcode := mod_two_of_contains hparity hcontains
    have hcode' := mod_two_of_contains hotherParity hother
    omega

/-- The capitals of the letters of a run are the run of its capitals. -/
theorem contains_capitals (hcontains : run.contains code = true) :
    run.capitals.contains (run.capitalOf code) = true := by
  rw [contains_iff] at hcontains ⊢
  rcases hcontains with ⟨hfirst, hlast, hpace⟩
  simp only [capitals, capitalOf]
  refine ⟨by omega, by omega, ?_⟩
  rw [Nat.add_sub_cancel_left, hpace]

end CaseRun

/-! ## The table -/

/-- The letters whose upper-case form is another, run by run: those of ASCII, those of the table with
one capital and those that are written out. -/
def smallLetters : List CaseRun :=
  ⟨0x61, 0x7A, 1, 0x41⟩ :: caseRuns ++
    caseExpansions.map fun entry => ⟨entry.1, entry.1, 1, entry.1⟩

/-- No small letter is a capital of a run. -/
theorem capitals_isApartFrom_smallLetters :
    (caseRuns.all fun run => smallLetters.all run.capitals.isApartFrom) = true := by
  decide +kernel

/-- The capitals of a run are characters. -/
theorem isValidChar_capitals :
    ∀ run ∈ caseRuns, run.capitals.last < 0xD800 ∨
      (0xDFFF < run.capitals.first ∧ run.capitals.last < 0x110000) := by
  decide +kernel

/-- The characters in which a letter is written out are their own upper-case forms. -/
theorem upperChar_of_mem_expansions :
    ∀ entry ∈ caseExpansions, ∀ code ∈ entry.2,
      upperChar (Char.ofNat code) = [Char.ofNat code] := by
  decide +kernel

/-- The upper-case forms of ASCII are their own. -/
theorem upperChar_toUpper_ascii :
    ∀ code < 0x80, upperChar (Char.ofNat code).toUpper = [(Char.ofNat code).toUpper] := by
  decide +kernel

/-! ## Characters in upper case -/

section NoSmallLetter

variable {c : Char} (hnone : ∀ run ∈ smallLetters, run.contains c.toNat = false)
include hnone

/-- A character that is no small letter of ASCII is its own capital. -/
theorem toUpper_of_not_contains : c.toUpper = c := by
  have hsmall := hnone ⟨0x61, 0x7A, 1, 0x41⟩ List.mem_cons_self
  have hnot : ¬ ('a'.val ≤ c.val ∧ c.val ≤ 'z'.val) := by
    rintro ⟨hfirst, hlast⟩
    rw [UInt32.le_iff_toNat_le] at hfirst hlast
    have hcontains : CaseRun.contains ⟨0x61, 0x7A, 1, 0x41⟩ c.toNat = true :=
      CaseRun.contains_of_le hfirst hlast
    rw [hcontains] at hsmall
    cases hsmall
  exact dif_neg hnot

/-- A character that is no small letter is not written out. -/
theorem lookup_of_not_contains : caseExpansions.lookup c.toNat = none := by
  rw [List.lookup_eq_none_iff]
  intro entry hentry
  have hsingle := hnone ⟨entry.1, entry.1, 1, entry.1⟩
    (List.mem_append_right _ (List.mem_map_of_mem hentry))
  rw [bne_iff_ne]
  intro hcode
  rw [CaseRun.contains_of_le (Nat.le_of_eq hcode.symm) (Nat.le_of_eq hcode)] at hsingle
  cases hsingle

/-- A character that is no small letter is its own upper-case form. -/
theorem upperChar_of_not_contains : upperChar c = [c] := by
  have hrun : caseRuns.find? (·.contains c.toNat) = none := by
    rw [List.find?_eq_none]
    intro run hmem
    rw [hnone run (List.mem_append_left _ (List.mem_cons_of_mem _ hmem))]
    exact Bool.false_ne_true
  unfold upperChar
  rw [toUpper_of_not_contains hnone, lookup_of_not_contains hnone, hrun]
  exact ite_self _

end NoSmallLetter

/-- The code of a character that is given by its code. -/
theorem toNat_ofNat {code : Nat} (hvalid : code.isValidChar) : (Char.ofNat code).toNat = code := by
  rw [Char.ofNat, dif_pos hvalid]
  rfl

/-- The capital of a letter of a run is a character. -/
theorem isValidChar_capitalOf {run : CaseRun} {code : Nat} (hrun : run ∈ caseRuns)
    (hcontains : run.contains code = true) : (run.capitalOf code).isValidChar := by
  have hbounds := CaseRun.contains_iff.1 (CaseRun.contains_capitals hcontains)
  rcases isValidChar_capitals run hrun with hlow | hhigh
  · exact Or.inl (by omega)
  · exact Or.inr (by omega)

/-- The capital of a letter of a run is its own upper-case form. -/
theorem upperChar_capitalOf {run : CaseRun} {code : Nat} (hrun : run ∈ caseRuns)
    (hcontains : run.contains code = true) :
    upperChar (Char.ofNat (run.capitalOf code)) = [Char.ofNat (run.capitalOf code)] := by
  have hcapital := CaseRun.contains_capitals hcontains
  apply upperChar_of_not_contains
  intro other hother
  rw [toNat_ofNat (isValidChar_capitalOf hrun hcontains)]
  have hapart := List.all_eq_true.1 capitals_isApartFrom_smallLetters run hrun
  exact CaseRun.contains_eq_false_of_isApartFrom (List.all_eq_true.1 hapart other hother) hcapital

/-- Where a character of an upper-case form comes from: from ASCII, from a letter that is written out
or from a run, or the character is its own form. -/
theorem cases_of_mem_upperChar {c d : Char} (hmem : d ∈ upperChar c) :
    (c.toNat < 0x80 ∧ d = c.toUpper) ∨
      (∃ entry ∈ caseExpansions, ∃ code ∈ entry.2, d = Char.ofNat code) ∨
      (∃ run ∈ caseRuns, run.contains c.toNat = true ∧ d = Char.ofNat (run.capitalOf c.toNat)) ∨
      (d = c ∧ upperChar c = [c]) := by
  unfold upperChar at hmem
  split at hmem
  · rename_i hascii
    exact Or.inl ⟨hascii, List.mem_singleton.1 hmem⟩
  · rename_i hbeyond
    split at hmem
    · rename_i codes hlookup
      rcases List.mem_map.1 hmem with ⟨code, hcode, rfl⟩
      rw [List.lookup_eq_some_iff] at hlookup
      rcases hlookup with ⟨before, after, htable, -⟩
      exact Or.inr (Or.inl ⟨(c.toNat, codes), by simp [htable], code, hcode, rfl⟩)
    · rename_i hlookup
      split at hmem
      · rename_i run hfind
        have hcontains : run.contains c.toNat = true := by simpa using List.find?_some hfind
        exact Or.inr (Or.inr (Or.inl
          ⟨run, List.mem_of_find?_eq_some hfind, hcontains, List.mem_singleton.1 hmem⟩))
      · rename_i hfind
        refine Or.inr (Or.inr (Or.inr ⟨List.mem_singleton.1 hmem, ?_⟩))
        rw [upperChar, if_neg hbeyond, hlookup, hfind]

/-- A character that stands in an upper-case form is its own upper-case form. -/
theorem upperChar_of_mem_upperChar {c d : Char} (hmem : d ∈ upperChar c) :
    upperChar d = [d] := by
  rcases cases_of_mem_upperChar hmem with
    ⟨hascii, rfl⟩ | ⟨entry, hentry, code, hcode, rfl⟩ | ⟨run, hrun, hcontains, rfl⟩ | ⟨rfl, hown⟩
  · have hform := upperChar_toUpper_ascii c.toNat hascii
    rw [Char.ofNat_toNat] at hform
    exact hform
  · exact upperChar_of_mem_expansions entry hentry code hcode
  · exact upperChar_capitalOf hrun hcontains
  · exact hown

/-- Upper case is final: a text in upper case stays as it is. -/
theorem upper_upper (text : String) : upper (upper text) = upper text := by
  have hchar : ∀ c : Char, (upperChar c).flatMap upperChar = upperChar c := by
    intro c
    calc (upperChar c).flatMap upperChar
        = (upperChar c).flatMap fun d => [d] := by
          rw [List.flatMap_def, List.flatMap_def,
            List.map_congr_left fun d hmem => upperChar_of_mem_upperChar hmem]
      _ = upperChar c := List.flatMap_singleton' (upperChar c)
  rw [← String.toList_inj, toList_upper, toList_upper, List.flatMap_assoc]
  simp only [hchar]

/-! ## Words in upper case -/

/-- The characters that divide words, run by run. -/
def separatorRuns : List CaseRun :=
  [⟨0x09, 0x0D, 1, 0x09⟩, ⟨0x1C, 0x20, 1, 0x1C⟩, ⟨0x85, 0x85, 1, 0x85⟩, ⟨0xA0, 0xA0, 1, 0xA0⟩,
    ⟨0x1680, 0x1680, 1, 0x1680⟩, ⟨0x2000, 0x200A, 1, 0x2000⟩, ⟨0x2028, 0x2029, 1, 0x2028⟩,
    ⟨0x202F, 0x202F, 1, 0x202F⟩, ⟨0x205F, 0x205F, 1, 0x205F⟩, ⟨0x3000, 0x3000, 1, 0x3000⟩]

/-- A character that divides words is in one of these runs. -/
theorem exists_separatorRun {c : Char} (hseparator : isSeparator c = true) :
    ∃ run ∈ separatorRuns, run.contains c.toNat = true := by
  simp only [isSeparator, isBlank, isInformationSeparator, Bool.or_eq_true, Bool.and_eq_true,
    decide_eq_true_eq, beq_iff_eq] at hseparator
  simp only [separatorRuns, List.mem_cons, exists_eq_or_imp, List.not_mem_nil, or_false,
    exists_eq_left, CaseRun.contains_iff, Nat.mod_one, and_true]
  omega

/-- The upper-case forms of ASCII do not divide words. -/
theorem isSeparator_toUpper_ascii :
    ∀ code < 0x80, isSeparator (Char.ofNat code) = false →
      isSeparator (Char.ofNat code).toUpper = false := by
  decide +kernel

/-- The characters in which a letter is written out do not divide words. -/
theorem isSeparator_of_mem_expansions :
    ∀ entry ∈ caseExpansions, ∀ code ∈ entry.2, isSeparator (Char.ofNat code) = false := by
  decide +kernel

/-- No capital of a run divides words. -/
theorem capitals_isApartFrom_separatorRuns :
    (caseRuns.all fun run => separatorRuns.all run.capitals.isApartFrom) = true := by
  decide +kernel

/-- The capital of a letter of a run does not divide words. -/
theorem isSeparator_capitalOf {run : CaseRun} {code : Nat} (hrun : run ∈ caseRuns)
    (hcontains : run.contains code = true) :
    isSeparator (Char.ofNat (run.capitalOf code)) = false := by
  rw [Bool.eq_false_iff]
  intro hseparator
  obtain ⟨separators, hmem, hseparators⟩ := exists_separatorRun hseparator
  rw [toNat_ofNat (isValidChar_capitalOf hrun hcontains)] at hseparators
  have hapart := List.all_eq_true.1
    (List.all_eq_true.1 capitals_isApartFrom_separatorRuns run hrun) separators hmem
  rw [CaseRun.contains_eq_false_of_isApartFrom hapart (CaseRun.contains_capitals hcontains)]
    at hseparators
  cases hseparators

/-- The upper-case form of a character that does not divide words does not divide them either. -/
theorem isSeparator_of_mem_upperChar {c d : Char} (hc : isSeparator c = false)
    (hmem : d ∈ upperChar c) : isSeparator d = false := by
  rcases cases_of_mem_upperChar hmem with
    ⟨hascii, rfl⟩ | ⟨entry, hentry, code, hcode, rfl⟩ | ⟨run, hrun, hcontains, rfl⟩ | ⟨rfl, _⟩
  · have hform := isSeparator_toUpper_ascii c.toNat hascii
    rw [Char.ofNat_toNat] at hform
    exact hform hc
  · exact isSeparator_of_mem_expansions entry hentry code hcode
  · exact isSeparator_capitalOf hrun hcontains
  · exact hc

/-- A word in upper case is a word. -/
theorem isWord_upper {word : String} (hword : IsWord word) : IsWord (upper word) := by
  obtain ⟨hne, hletters⟩ := hword
  refine ⟨upper_ne_empty hne, fun d hd => ?_⟩
  rw [toList_upper] at hd
  obtain ⟨c, hc, hmem⟩ := List.mem_flatMap.1 hd
  exact isSeparator_of_mem_upperChar (hletters c hc) hmem

end FundsTransfer.Text
