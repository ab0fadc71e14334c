import FundsTransfer.Text.Uppercase
import FundsTransfer.Text.Words

/-!
# Words and their upper-case forms

No word of a text is empty, and neither is the upper-case form of a word.  Words that are written
one behind the other, with gaps between them, are read as they were.

Main definitions:

- `IsWord`: the texts that may be a word.
- `IsGap`: the texts of separators.

Main results:

- Theorem `ne_empty_of_mem_words`: every word of a text has a character.
- Theorem `isWord_of_mem_words`: every word of a text may be a word.
- Theorem `words_append_gap_append`: a gap divides the words of a text.
- Theorem `words_intercalate`: the words of words with blanks between them.
- Theorem `upper_ne_empty`: the upper-case form of a text has a character if the text has one.
-/

namespace FundsTransfer.Text

/-- A run of letters becomes a word only if it has a letter. -/
theorem ne_nil_of_mem_addRun {run word : List Char} {later : List (List Char)}
    (hlater : ∀ other ∈ later, other ≠ []) (hword : word ∈ addRun run later) : word ≠ [] := by
  cases run with
  | nil => exact hlater word hword
  | cons c rest =>
      rcases List.mem_cons.1 hword with rfl | hmem
      · exact List.cons_ne_nil c rest
      · exact hlater word hmem

/-- What holds of the run and of the words behind it holds of all words. -/
theorem forall_of_mem_addRun {P : List Char → Prop} {run word : List Char}
    {later : List (List Char)} (hrun : P run) (hlater : ∀ other ∈ later, P other)
    (hword : word ∈ addRun run later) : P word := by
  cases run with
  | nil => exact hlater word hword
  | cons c rest =>
      rcases List.mem_cons.1 hword with rfl | hmem
      · exact hrun
      · exact hlater word hmem

/-- The words after the run at the front of a text are not empty. -/
theorem ne_nil_of_mem_split {text word : List Char} (hword : word ∈ (split text).2) :
    word ≠ [] := by
  induction text generalizing word with
  | nil => simp at hword
  | cons c rest ih =>
      cases hc : isSeparator c with
      | true =>
          rw [split_separator_cons hc] at hword
          exact ne_nil_of_mem_addRun (fun _ hother => ih hother) hword
      | false =>
          rw [split_letter_cons hc] at hword
          exact ih hword

/-- No word of a text is empty. -/
theorem ne_empty_of_mem_words {text word : String} (hword : word ∈ words text) : word ≠ "" := by
  rcases List.mem_map.1 hword with ⟨chars, hchars, rfl⟩
  have hne := ne_nil_of_mem_addRun (fun _ hother => ne_nil_of_mem_split hother) hchars
  intro hempty
  exact hne (by simpa using congrArg String.toList hempty)

/-! ## Words as texts -/

/-- A text is a word if it is not empty and holds no separator. -/
def IsWord (text : String) : Prop :=
  text ≠ "" ∧ ∀ c ∈ text.toList, isSeparator c = false

-- The letters of the text are gone through, and not all characters there are.
instance (text : String) : Decidable (IsWord text) :=
  @instDecidableAnd _ _ inferInstance (List.decidableBAll (isSeparator · = false) text.toList)

/-- The runs into which a text is divided hold no separator. -/
theorem isSeparator_of_mem_split (text : List Char) :
    (∀ c ∈ (split text).1, isSeparator c = false) ∧
      ∀ word ∈ (split text).2, ∀ c ∈ word, isSeparator c = false := by
  induction text with
  | nil => simp
  | cons c rest ih =>
      obtain ⟨hrun, hlater⟩ := ih
      cases hc : isSeparator c with
      | true =>
          rw [split_separator_cons hc]
          refine ⟨fun d hd => absurd hd List.not_mem_nil, fun word hword => ?_⟩
          exact forall_of_mem_addRun hrun hlater hword
      | false =>
          rw [split_letter_cons hc]
          refine ⟨fun d hd => ?_, hlater⟩
          rcases List.mem_cons.1 hd with rfl | hmem
          · exact hc
          · exact hrun d hmem

/-- Every word of a text may be a word. -/
theorem isWord_of_mem_words {text word : String} (hword : word ∈ words text) : IsWord word := by
  refine ⟨ne_empty_of_mem_words hword, ?_⟩
  rcases List.mem_map.1 hword with ⟨chars, hchars, rfl⟩
  obtain ⟨hrun, hlater⟩ := isSeparator_of_mem_split text.toList
  rw [String.toList_ofList]
  exact forall_of_mem_addRun hrun hlater hchars

/-- Letters are one run. -/
theorem split_of_letters {run : List Char} (hletters : ∀ c ∈ run, isSeparator c = false) :
    split run = (run, []) := by
  induction run with
  | nil => rfl
  | cons c rest ih =>
      have hrest := ih fun d hd => hletters d (List.mem_cons_of_mem c hd)
      rw [split_letter_cons (hletters c List.mem_cons_self), hrest]

/-- The only word of a word is the word itself. -/
theorem words_of_isWord {word : String} (hword : IsWord word) : words word = [word] := by
  rcases hword with ⟨hne, hletters⟩
  have hchars : word.toList ≠ [] := by
    intro hnil
    exact hne (String.toList_eq_nil_iff.1 hnil)
  rw [words, wordsOf, split_of_letters hletters, addRun, if_neg (by simpa using hchars),
    List.map_singleton, String.ofList_toList]

/-! ## Gaps -/

/-- A gap is a text of separators; it may be empty. -/
def IsGap (text : String) : Prop :=
  ∀ c ∈ text.toList, isSeparator c = true

-- As for words, the letters of the text are gone through.
instance (text : String) : Decidable (IsGap text) :=
  List.decidableBAll (isSeparator · = true) text.toList

/-- The empty text is a gap. -/
theorem isGap_empty : IsGap "" := by
  simp [IsGap]

/-- A gap in front of a list of characters adds no word. -/
theorem wordsOf_gap_append {gap : List Char} (hgap : ∀ c ∈ gap, isSeparator c = true)
    (after : List Char) : wordsOf (gap ++ after) = wordsOf after := by
  induction gap with
  | nil => rfl
  | cons c rest ih =>
      have hrest := ih fun d hd => hgap d (List.mem_cons_of_mem c hd)
      rw [List.cons_append, wordsOf_separator_cons (hgap c List.mem_cons_self), hrest]

/-- A gap in front of a text adds no word. -/
theorem words_gap_append {gap : String} (hgap : IsGap gap) (after : String) :
    words (gap ++ after) = words after := by
  rw [words, String.toList_append, wordsOf_gap_append hgap]
  rfl

/-- A gap that is not empty divides the words of a text into those before it and those after it. -/
theorem words_append_gap_append {gap : String} (hgap : IsGap gap) (hne : gap ≠ "")
    (before after : String) : words (before ++ gap ++ after) = words before ++ words after := by
  cases hchars : gap.toList with
  | nil => exact absurd (String.toList_eq_nil_iff.1 hchars) hne
  | cons c rest =>
      have hseparators : ∀ d ∈ c :: rest, isSeparator d = true := by
        intro d hd
        exact hgap d (by rwa [hchars])
      have hrest := wordsOf_gap_append (fun d hd => hseparators d (List.mem_cons_of_mem c hd))
        after.toList
      have htext : (before ++ gap ++ after).toList =
          before.toList ++ c :: (rest ++ after.toList) := by
        simp [hchars]
      rw [words, htext, wordsOf_append_separator_cons (hseparators c List.mem_cons_self), hrest,
        List.map_append]
      rfl

/-- A gap behind a text adds no word. -/
theorem words_append_gap {gap : String} (hgap : IsGap gap) (before : String) :
    words (before ++ gap) = words before := by
  by_cases hempty : gap = ""
  · rw [hempty, String.append_empty]
  · have hwords := words_append_gap_append hgap hempty before ""
    rwa [String.append_empty, show words "" = [] from rfl, List.append_nil] at hwords

/-! ## Words with blanks between them -/

/-- A blank divides the words of a text into those before it and those after it. -/
theorem words_append_blank (before after : String) :
    words (before ++ " " ++ after) = words before ++ words after :=
  words_append_gap_append (by decide) (by decide) before after

/-- Words that are written with blanks between them are read as they were. -/
theorem words_intercalate {texts : List String} (hwords : ∀ text ∈ texts, IsWord text) :
    words (" ".intercalate texts) = texts := by
  induction texts with
  | nil => rfl
  | cons first rest ih =>
      have hfirst := words_of_isWord (hwords first List.mem_cons_self)
      have hrest := ih fun text htext => hwords text (List.mem_cons_of_mem first htext)
      cases rest with
      | nil =>
          rw [String.intercalate_singleton]
          exact hfirst
      | cons second later =>
          rw [String.intercalate_cons_cons, words_append_blank, hfirst, hrest]
          rfl

/-! ## Upper case -/

/-- Every character has an upper-case form. -/
theorem upperChar_ne_nil (c : Char) : upperChar c ≠ [] := by
  have hexpansions : ∀ entry ∈ caseExpansions, entry.2 ≠ [] := by decide
  unfold upperChar
  split
  · exact List.cons_ne_nil _ _
  · split
    · rename_i codes hlookup
      rw [List.lookup_eq_some_iff] at hlookup
      rcases hlookup with ⟨before, after, htable, -⟩
      have hne := hexpansions (c.toNat, codes) (by simp [htable])
      simpa using hne
    · split <;> exact List.cons_ne_nil _ _

/-- The upper-case form of a text is not empty unless the text is. -/
theorem upper_ne_empty {text : String} (hne : text ≠ "") : upper text ≠ "" := by
  intro hempty
  have hchars : text.toList.flatMap upperChar = [] := by
    rw [← toList_upper, hempty]
    rfl
  rw [List.flatMap_eq_nil_iff] at hchars
  apply hne
  rw [← String.toList_eq_nil_iff, List.eq_nil_iff_forall_not_mem]
  intro c hc
  exact upperChar_ne_nil c (hchars c hc)

end FundsTransfer.Text
