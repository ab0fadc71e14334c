/-!
# Directions

An instruction opens with the side from which it tells the transfer: a debit names the account that
is charged first, a credit the account that gains.

Main definitions:

- `Direction`: the two sides, with their keywords and prepositions.
- `Heading`: what stands as the direction of a reading, a side or a word that is no side.

Main results:

- Theorems `ofText_text`, `text_ofText`: headings and their texts stand for each other.
-/

namespace FundsTransfer

/-- A side of a transfer. -/
inductive Direction where
  | debit
  | credit
deriving DecidableEq, Repr

namespace Direction

/-- The keyword of a side. -/
def keyword : Direction → String
  | debit => "DEBIT"
  | credit => "CREDIT"

/-- The preposition in front of the account on a side. -/
def preposition : Direction → String
  | debit => "FROM"
  | credit => "TO"

/-- The other side. -/
def opposite : Direction → Direction
  | debit => credit
  | credit => debit

/-- The side that a keyword stands for, in upper case. -/
def ofKeyword? (word : String) : Option Direction :=
  if word = "DEBIT" then some debit
  else if word = "CREDIT" then some credit
  else none

@[simp]
theorem opposite_opposite (side : Direction) : side.opposite.opposite = side := by
  cases side <;> rfl

/-- Only its keyword stands for a side. -/
theorem ofKeyword?_eq_some_iff {word : String} {side : Direction} :
    ofKeyword? word = some side ↔ word = side.keyword := by
  cases side <;> simp only [ofKeyword?, keyword] <;> split <;> simp_all

/-- The keyword of a side stands for it. -/
theorem ofKeyword?_keyword (side : Direction) : ofKeyword? side.keyword = some side :=
  ofKeyword?_eq_some_iff.2 rfl

/-- A word that stands for no side is neither keyword. -/
theorem ofKeyword?_eq_none_iff {word : String} :
    ofKeyword? word = none ↔ word ≠ "DEBIT" ∧ word ≠ "CREDIT" := by
  by_cases hd : word = "DEBIT" <;> by_cases hc : word = "CREDIT" <;> simp [ofKeyword?, hd, hc]

end Direction

/-- What stands as the direction of a reading: a side, or a word that stands for none and is taken as
given. -/
inductive Heading where
  | side (side : Direction)
  | word (text : String) (hunknown : Direction.ofKeyword? text = none)
deriving DecidableEq, Repr

namespace Heading

/-- The text of a heading. -/
def text : Heading → String
  | side s => s.keyword
  | word text _ => text

/-- The heading with a given text. -/
def ofText (text : String) : Heading :=
  match hside : Direction.ofKeyword? text with
  | some s => side s
  | none => word text hside

@[simp]
theorem text_ofText (text : String) : (ofText text).text = text := by
  unfold ofText
  split
  · next s h => exact (Direction.ofKeyword?_eq_some_iff.1 h).symm
  · rfl

/-- A heading is known by its text. -/
@[simp]
theorem ofText_text (heading : Heading) : ofText heading.text = heading := by
  cases heading with
  | side s =>
    have hkeyword : Direction.ofKeyword? (side s).text = some s := Direction.ofKeyword?_keyword s
    unfold ofText
    split
    · next other h => rw [Option.some.inj (hkeyword.symm.trans h)]
    · next h => cases hkeyword.symm.trans h
  | word text hunknown =>
    unfold ofText
    split
    · next s h => cases hunknown.symm.trans h
    · rfl

end Heading

end FundsTransfer
