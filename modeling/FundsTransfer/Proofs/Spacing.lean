import FundsTransfer.Proofs.Answer
import FundsTransfer.Proofs.Text

/-!
# Words and the gaps between them

A text is made up of its words and of gaps.  The gaps in front and behind may be empty, those
between two words may not.  How wide they are, and of which separators, does not count: the words
are the same, and so is all that is read of them.

Main definitions:

- `Text.Layout`: words with gaps around them, `Layout.words` and `Layout.text`.

Main results:

- Theorem `words_text`: the words of a text that was laid out are those it was laid out from.
- Theorem `exists_layout`: every text can be laid out.
- Theorem `words_inverts_layout`: splitting a text into words is the inverse of laying words out,
  and an instruction is answered like its words with single blanks between them.
-/

namespace FundsTransfer

namespace Text

/-! ## Words with gaps -/

/-- The text of words that are each followed by a gap. -/
def spacedOut : List (String × String) → String
  | [] => ""
  | (word, gap) :: rest => word ++ gap ++ spacedOut rest

/-- Words that are each followed by a gap, where only the gap behind the last one may be empty. -/
structure IsSpaced (pieces : List (String × String)) : Prop where
  isWord : ∀ piece ∈ pieces, IsWord piece.1
  isGap : ∀ piece ∈ pieces, IsGap piece.2
  gap_ne_empty : ∀ piece ∈ pieces.dropLast, piece.2 ≠ ""

/-- A text as it is laid out: a gap, and behind it words that are each followed by a gap. -/
structure Layout where
  front : String
  pieces : List (String × String)
  isGap_front : IsGap front
  isSpaced : IsSpaced pieces

/-- The words of a layout, in order. -/
def Layout.words (layout : Layout) : List String :=
  layout.pieces.map Prod.fst

/-- The text of a layout. -/
def Layout.text (layout : Layout) : String :=
  layout.front ++ spacedOut layout.pieces

/-- No words, and no gaps either, are spaced. -/
theorem isSpaced_nil : IsSpaced [] :=
  ⟨by simp, by simp, by simp⟩

/-- One more word may stand in front if its gap parts it from the words behind it. -/
theorem IsSpaced.cons {word gap : String} {rest : List (String × String)} (hrest : IsSpaced rest)
    (hword : IsWord word) (hgap : IsGap gap) (hparts : rest ≠ [] → gap ≠ "") :
    IsSpaced ((word, gap) :: rest) where
  isWord := List.forall_mem_cons.2 ⟨hword, hrest.isWord⟩
  isGap := List.forall_mem_cons.2 ⟨hgap, hrest.isGap⟩
  gap_ne_empty := by
    cases rest with
    | nil => simp
    | cons piece later =>
        rw [List.dropLast_cons_cons]
        exact List.forall_mem_cons.2 ⟨hparts (List.cons_ne_nil _ _), hrest.gap_ne_empty⟩

/-- What stands behind the first of several words is spaced, and its gap parts it from them. -/
theorem IsSpaced.of_cons {word gap : String} {rest : List (String × String)}
    (hspaced : IsSpaced ((word, gap) :: rest)) :
    IsWord word ∧ IsGap gap ∧ (rest ≠ [] → gap ≠ "") ∧ IsSpaced rest := by
  obtain ⟨hword, hwords⟩ := List.forall_mem_cons.1 hspaced.isWord
  obtain ⟨hgap, hgaps⟩ := List.forall_mem_cons.1 hspaced.isGap
  have hparts := hspaced.gap_ne_empty
  cases rest with
  | nil => exact ⟨hword, hgap, fun hne => absurd rfl hne, isSpaced_nil⟩
  | cons piece later =>
      rw [List.dropLast_cons_cons] at hparts
      obtain ⟨hfirst, hlater⟩ := List.forall_mem_cons.1 hparts
      exact ⟨hword, hgap, fun _ => hfirst, ⟨hwords, hgaps, hlater⟩⟩

/-- The words of words with gaps are these words. -/
theorem words_spacedOut {pieces : List (String × String)} (hspaced : IsSpaced pieces) :
    words (spacedOut pieces) = pieces.map Prod.fst := by
  -- Only behind the last word may there be no gap; everywhere else a gap divides the words.
  induction pieces with
  | nil => rfl
  | cons piece rest ih =>
      obtain ⟨word, gap⟩ := piece
      obtain ⟨hword, hgap, hparts, hrest⟩ := hspaced.of_cons
      by_cases hlast : rest = []
      · subst hlast
        rw [spacedOut, spacedOut, String.append_empty, words_append_gap hgap, words_of_isWord hword]
        rfl
      · rw [spacedOut, words_append_gap_append hgap (hparts hlast), words_of_isWord hword, ih hrest]
        rfl

/-- The words of a text that was laid out are those it was laid out from. -/
theorem words_text (layout : Layout) : words layout.text = layout.words := by
  rw [Layout.text, words_gap_append layout.isGap_front, words_spacedOut layout.isSpaced]
  rfl

/-! ## Every text is laid out -/

/-- A separator in front of a text that is laid out makes its front wider. -/
theorem exists_layout_separator {c : Char} (hseparator : isSeparator c = true) (layout : Layout) :
    ∃ wider : Layout, wider.text = String.singleton c ++ layout.text := by
  have hgap : IsGap (String.singleton c ++ layout.front) := by
    intro d hd
    rw [String.toList_append, String.toList_singleton] at hd
    rcases List.mem_cons.1 hd with rfl | hfront
    · exact hseparator
    · exact layout.isGap_front d hfront
  refine ⟨⟨_, layout.pieces, hgap, layout.isSpaced⟩, ?_⟩
  rw [Layout.text, Layout.text, String.append_assoc]

/-- A letter in front of a word is the first letter of a word. -/
theorem isWord_letter_append {c : Char} (hletter : isSeparator c = false) {rest : String}
    (hrest : ∀ d ∈ rest.toList, isSeparator d = false) : IsWord (String.singleton c ++ rest) := by
  refine ⟨?_, ?_⟩
  · intro hempty
    simpa using congrArg String.toList hempty
  · rw [String.toList_append, String.toList_singleton]
    exact List.forall_mem_cons.2 ⟨hletter, hrest⟩

/-- A letter in front of a text that is laid out joins the first word, if no gap stands between, and
is a word of its own otherwise. -/
theorem exists_layout_letter {c : Char} (hletter : isSeparator c = false) (layout : Layout) :
    ∃ longer : Layout, longer.text = String.singleton c ++ layout.text := by
  rcases layout with ⟨front, pieces, hfront, hspaced⟩
  by_cases hparts : pieces ≠ [] → front ≠ ""
  · have hword : IsWord (String.singleton c ++ "") := isWord_letter_append hletter (by simp)
    rw [String.append_empty] at hword
    refine ⟨⟨"", _, isGap_empty, hspaced.cons hword hfront hparts⟩, ?_⟩
    rw [Layout.text, Layout.text, spacedOut, String.empty_append, String.append_assoc]
  · obtain ⟨hne, rfl⟩ : pieces ≠ [] ∧ front = "" := by simpa using hparts
    cases pieces with
    | nil => exact absurd rfl hne
    | cons piece rest =>
        obtain ⟨word, gap⟩ := piece
        obtain ⟨hword, hgap, hapart, hrest⟩ := hspaced.of_cons
        refine ⟨⟨"", _, isGap_empty,
          hrest.cons (isWord_letter_append hletter hword.2) hgap hapart⟩, ?_⟩
        simp only [Layout.text, spacedOut, String.empty_append, String.append_assoc]

/-- Every text can be laid out. -/
theorem exists_layout (text : String) : ∃ layout : Layout, layout.text = text := by
  obtain ⟨chars, rfl⟩ : ∃ chars, text = String.ofList chars := ⟨text.toList, by simp⟩
  -- The text is laid out from its end, one character after another in front of the rest.
  induction chars with
  | nil => exact ⟨⟨"", [], isGap_empty, isSpaced_nil⟩, rfl⟩
  | cons c rest ih =>
      obtain ⟨layout, htext⟩ := ih
      have hcons : String.ofList (c :: rest) = String.singleton c ++ layout.text := by
        rw [htext, ← String.toList_inj]
        simp
      rw [hcons]
      cases hseparator : isSeparator c with
      | true => exact exists_layout_separator hseparator layout
      | false => exact exists_layout_letter hseparator layout

end Text

/-! ## Instructions -/

/-- Splitting a text into words is the inverse of laying words out with gaps.  Whatever the gaps
are, the words come back; every text is made up of its words and gaps; and an instruction has the
same response as its words with single blanks between them. -/
theorem words_inverts_layout :
    (∀ layout : Text.Layout, Text.words layout.text = layout.words) ∧
    (∀ text : String, (∀ word ∈ Text.words text, Text.IsWord word) ∧
      ∃ layout : Text.Layout, layout.words = Text.words text ∧ layout.text = text) ∧
    ∀ (accounts : List Account) (today : Calendar.Date) (text : String),
      (answerText accounts today (" ".intercalate (Text.words text))).response =
        (answerText accounts today text).response := by
  refine ⟨Text.words_text, ?_, ?_⟩
  · intro text
    obtain ⟨layout, rfl⟩ := Text.exists_layout text
    exact ⟨fun _ => Text.isWord_of_mem_words, layout, (Text.words_text layout).symm, rfl⟩
  · intro accounts today text
    have hwords : Text.words (" ".intercalate (Text.words text)) = Text.words text :=
      Text.words_intercalate fun _ => Text.isWord_of_mem_words
    apply response_answerText_congr
    rw [Reading.ofText, Reading.ofText, hwords]

/-- A transfer with gaps of all kinds: an ideographic space, a file separator, a line end. -/
def sprawlingTransfer : Text.Layout where
  front := "\u3000\t"
  pieces :=
    [("DEBIT", " "), ("1", "\x1c"), ("usd", "\u2003 "), ("FROM", "\n"), ("ACCOUNT", " "),
      ("a", "  "), ("FOR", " "), ("CREDIT", "\u2028"), ("TO", " "), ("ACCOUNT", "\x85"), ("b", "")]
  isGap_front := by decide +kernel
  isSpaced := ⟨by decide +kernel, by decide +kernel, by decide +kernel⟩

/-- It is executed like the line that is written with single blanks. -/
theorem words_sprawlingTransfer :
    Text.words sprawlingTransfer.text = sprawlingTransfer.words ∧
      (answerText [⟨"a", 1, "USD"⟩, ⟨"b", 0, "USD"⟩]
        ⟨2025, 5, 17, by decide, by decide, by decide, by decide, by decide, by decide⟩
        sprawlingTransfer.text).response.outcome = .executed := by
  obtain ⟨hwords, -, hsame⟩ := words_inverts_layout
  refine ⟨hwords sprawlingTransfer, ?_⟩
  rw [← hsame, hwords]
  decide +kernel

end FundsTransfer
