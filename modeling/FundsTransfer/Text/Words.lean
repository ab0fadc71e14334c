/-!
# Words

Two classes of characters stand for nothing but space: the blank characters, which may surround a
number, and the separators, which divide words.  A text is read as the list of its words: the longest
runs of characters that hold no separator.

Main definitions:

- `isBlank`: the characters of the Unicode property `White_Space`.
- `isSeparator`: the blank characters and the four information separators.
- `split`: the run at the front of a text, possibly empty, and the words after it.
- `words`: all words of a text, in order.

Main results:

- Theorem `split_separator_cons` and theorem `split_letter_cons`: how one more character in front
  changes the run and the words.
- Theorem `wordsOf_append_separator_cons`: the words of a text are those before any of its
  separators and those after it.
-/

namespace FundsTransfer.Text

/-! ## Blank characters -/

/-- A character is blank exactly when it has the Unicode property `White_Space`. -/
def isBlank (c : Char) : Bool :=
  let code := c.toNat
  (0x09 ≤ code && code ≤ 0x0D) || code == 0x20 || code == 0x85 || code == 0xA0 ||
    code == 0x1680 || (0x2000 ≤ code && code ≤ 0x200A) || code == 0x2028 || code == 0x2029 ||
    code == 0x202F || code == 0x205F || code == 0x3000

/-- The information separators U+001C to U+001F divide words, but are not blank. -/
def isInformationSeparator (c : Char) : Bool :=
  0x1C ≤ c.toNat && c.toNat ≤ 0x1F

/-- A character divides words exactly when it is blank or an information separator. -/
def isSeparator (c : Char) : Bool :=
  isBlank c || isInformationSeparator c

/-! ## Runs of letters -/

/-- Adds a run of letters in front of a list of words, unless the run is empty. -/
def addRun (run : List Char) (later : List (List Char)) : List (List Char) :=
  if run.isEmpty then later else run :: later

/-- Divides a text into the run of letters at its front and the words after that run. -/
def split : List Char → List Char × List (List Char)
  | [] => ([], [])
  | c :: rest =>
    let (run, later) := split rest
    if isSeparator c then ([], addRun run later) else (c :: run, later)

/-- The words of a list of characters. -/
def wordsOf (text : List Char) : List (List Char) :=
  addRun (split text).1 (split text).2

/-- The words of a text, in order: its longest runs of characters that hold no separator. -/
def words (text : String) : List String :=
  (wordsOf text.toList).map String.ofList

@[simp]
theorem addRun_nil (later : List (List Char)) : addRun [] later = later := rfl

@[simp]
theorem addRun_cons (c : Char) (run : List Char) (later : List (List Char)) :
    addRun (c :: run) later = (c :: run) :: later := rfl

/-- A run is added in front of the words before others. -/
theorem addRun_append (run : List Char) (later more : List (List Char)) :
    addRun run (later ++ more) = addRun run later ++ more := by
  cases run <;> rfl

@[simp]
theorem split_nil : split [] = ([], []) := rfl

/-- A separator in front ends the run and leaves the words as they were. -/
theorem split_separator_cons {c : Char} (h : isSeparator c = true) (rest : List Char) :
    split (c :: rest) = ([], wordsOf rest) := by
  simp [split, wordsOf, h]

/-- A letter in front joins the run and leaves the later words as they were. -/
theorem split_letter_cons {c : Char} (h : isSeparator c = false) (rest : List Char) :
    split (c :: rest) = (c :: (split rest).1, (split rest).2) := by
  simp [split, h]

@[simp]
theorem wordsOf_nil : wordsOf [] = [] := rfl

/-- A separator ends the run and the words before it, and the words after it follow. -/
theorem split_append_separator_cons {c : Char} (h : isSeparator c = true)
    (before after : List Char) :
    split (before ++ c :: after) =
      ((split before).1, (split before).2 ++ wordsOf after) := by
  induction before with
  | nil => simp [split_separator_cons h]
  | cons b rest ih =>
    cases hb : isSeparator b <;> simp [split, hb, ih, addRun_append]

/-- The words of a text are those before any of its separators and those after it. -/
theorem wordsOf_append_separator_cons {c : Char} (h : isSeparator c = true)
    (before after : List Char) :
    wordsOf (before ++ c :: after) = wordsOf before ++ wordsOf after := by
  simp [wordsOf, split_append_separator_cons h, addRun_append]

/-- A separator in front of a text adds no word. -/
theorem wordsOf_separator_cons {c : Char} (h : isSeparator c = true) (rest : List Char) :
    wordsOf (c :: rest) = wordsOf rest := by
  simp [wordsOf, split_separator_cons h]

end FundsTransfer.Text
