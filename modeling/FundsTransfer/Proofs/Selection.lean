import Mathlib.Data.List.Basic
import FundsTransfer.Proofs.Precedence

/-!
# The place of the breach that counts

The breach that counts stands at one place: no breach is graver, and all in front of it are less
grave.  So lists may be joined breach by breach, and the order of the breaches bears on the message
alone, as long as their kinds are known.

Main definitions:

- `IsForemost`: a breach and its place, as the earliest of the gravest ones.

Main results:

- Theorem `IsForemost.unique`: there is one such place.
- Theorem `isForemost_of_primary?`: the breach that counts stands there.
- Theorem `primary?_append`: the breach that counts among two lists.
- Theorem `primary?_selects_foremost`: all of this at once.
-/

namespace FundsTransfer

/-! ## The earliest of the gravest -/

/-- A breach at a place, such that no breach is graver and all in front of it are less grave. -/
structure IsForemost (breaches : List Breach) (place : Nat) (breach : Breach) : Prop where
  getElem?_eq : breaches[place]? = some breach
  le : ∀ (index : Nat) (other : Breach), breaches[index]? = some other →
    breach.precedence ≤ other.precedence
  lt : ∀ earlier < place, ∀ other : Breach, breaches[earlier]? = some other →
    breach.precedence < other.precedence

variable {breaches : List Breach} {breach other : Breach} {place otherPlace : Nat}

/-- There is no place in front of the earliest one of the gravest. -/
theorem IsForemost.le_place (hforemost : IsForemost breaches place breach)
    (hother : IsForemost breaches otherPlace other) : place ≤ otherPlace := by
  by_contra hlt
  have hless := hforemost.lt otherPlace (Nat.lt_of_not_le hlt) other hother.getElem?_eq
  have hle := hother.le place breach hforemost.getElem?_eq
  omega

/-- The earliest of the gravest breaches has one place. -/
theorem IsForemost.unique (hforemost : IsForemost breaches place breach)
    (hother : IsForemost breaches otherPlace other) : place = otherPlace ∧ breach = other := by
  have hplace : place = otherPlace :=
    Nat.le_antisymm (hforemost.le_place hother) (hother.le_place hforemost)
  subst hplace
  exact ⟨rfl, Option.some.inj (hforemost.getElem?_eq.symm.trans hother.getElem?_eq)⟩

/-- A breach behind others is the earliest of the gravest if these are less grave. -/
theorem IsForemost.cons {first : Breach} (hforemost : IsForemost breaches place breach)
    (hlt : breach.precedence < first.precedence) :
    IsForemost (first :: breaches) (place + 1) breach where
  getElem?_eq := by simpa using hforemost.getElem?_eq
  le index other hother := by
    cases index with
    | zero =>
        cases hother
        exact Nat.le_of_lt hlt
    | succ index => exact hforemost.le index other (by simpa using hother)
  lt earlier hearlier other hother := by
    cases earlier with
    | zero =>
        cases hother
        exact hlt
    | succ earlier => exact hforemost.lt earlier (by omega) other (by simpa using hother)

/-- The first breach is the earliest of the gravest if no later one is graver. -/
theorem isForemost_zero {first : Breach}
    (hle : ∀ later ∈ breaches, first.precedence ≤ later.precedence) :
    IsForemost (first :: breaches) 0 first where
  getElem?_eq := rfl
  le index other hother := by
    cases index with
    | zero =>
        cases hother
        exact Nat.le_refl _
    | succ index => exact hle other (List.mem_of_getElem? (by simpa using hother))
  lt earlier hearlier := absurd hearlier (Nat.not_lt_zero earlier)

/-! ## The breach that counts -/

/-- The breach that counts is the earliest of the gravest ones. -/
theorem isForemost_of_primary? (hprimary : primary? breaches = some breach) :
    ∃ place, IsForemost breaches place breach := by
  -- The first breach stays in front unless a later one is graver, which is then one place further.
  induction breaches generalizing breach with
  | nil => cases hprimary
  | cons first rest ih =>
      cases hrest : primary? rest with
      | none =>
          rw [primary?_eq_none_iff] at hrest
          subst hrest
          cases hprimary
          exact ⟨0, isForemost_zero (by simp)⟩
      | some later =>
          rw [primary?_cons_of_eq_some hrest, graver, Option.some.injEq] at hprimary
          split at hprimary
          · rename_i hlt
            subst hprimary
            obtain ⟨place, hforemost⟩ := ih hrest
            exact ⟨place + 1, hforemost.cons hlt⟩
          · rename_i hle
            subst hprimary
            refine ⟨0, isForemost_zero fun other hother => ?_⟩
            exact Nat.le_trans (Nat.le_of_not_lt hle)
              (precedence_le_of_primary?_eq_some hrest hother)

/-- The earliest of the gravest breaches is the one that counts. -/
theorem IsForemost.primary?_eq (hforemost : IsForemost breaches place breach) :
    primary? breaches = some breach := by
  cases hprimary : primary? breaches with
  | none =>
      rw [primary?_eq_none_iff] at hprimary
      subst hprimary
      cases hforemost.getElem?_eq
  | some other =>
      obtain ⟨otherPlace, hother⟩ := isForemost_of_primary? hprimary
      rw [(hforemost.unique hother).2]

/-- The place of the earliest of the gravest breaches is found by its precedence. -/
theorem IsForemost.primaryIndex?_eq (hforemost : IsForemost breaches place breach) :
    primaryIndex? breaches = some place := by
  rw [primaryIndex?, hforemost.primary?_eq, Option.bind_some, List.findIdx?_eq_some_iff_getElem]
  obtain ⟨hlength, hbreach⟩ := List.getElem?_eq_some_iff.1 hforemost.getElem?_eq
  refine ⟨hlength, by simp [hbreach], ?_⟩
  intro earlier hearlier
  have hless := hforemost.lt earlier hearlier _ (List.getElem?_eq_getElem (by omega))
  rw [beq_iff_eq]
  omega

/-! ## Two lists -/

/-- It does not matter which of three breaches are compared first. -/
theorem graver_assoc (first second third : Breach) :
    graver (graver first second) third = graver first (graver second third) := by
  unfold graver
  split_ifs <;> first | rfl | omega

instance : Std.Associative graver :=
  ⟨graver_assoc⟩

/-- The breach that counts is the first one or, if that is graver, the one among the rest. -/
theorem primary?_cons (first : Breach) (rest : List Breach) :
    primary? (first :: rest) = Option.merge graver (some first) (primary? rest) := by
  cases hrest : primary? rest <;> simp [primary?, hrest]

/-- The breach that counts among two lists is the graver one of those that count in each. -/
theorem primary?_append (earlier later : List Breach) :
    primary? (earlier ++ later) = Option.merge graver (primary? earlier) (primary? later) := by
  induction earlier with
  | nil => simp
  | cons first rest ih =>
      rw [List.cons_append, primary?_cons, primary?_cons, ih]
      exact (Std.Associative.assoc _ _ _).symm

/-- A breach that counts, or none, counts alone. -/
theorem primary?_toList (breach : Option Breach) : primary? breach.toList = breach := by
  cases breach <;> rfl

/-- Lists with the same breaches have equally grave ones that count. -/
theorem precedence_eq_of_perm {others : List Breach} (hperm : breaches.Perm others)
    (hprimary : primary? breaches = some breach) (hother : primary? others = some other) :
    breach.precedence = other.precedence := by
  have hle := precedence_le_of_primary?_eq_some hprimary
    (hperm.mem_iff.2 (mem_of_primary?_eq_some hother))
  have hge := precedence_le_of_primary?_eq_some hother
    (hperm.mem_iff.1 (mem_of_primary?_eq_some hprimary))
  exact Nat.le_antisymm hle hge

/-- Two kinds of breaches in the catalogue have different places there. -/
theorem Code.eq_of_precedence_eq {code otherCode : Code} (hcode : code ∈ Code.catalogue)
    (hprecedence : code.precedence = otherCode.precedence) : code = otherCode :=
  (List.idxOf_inj hcode).1 (Nat.succ.inj hprecedence)

/-- The order of breaches of known kinds does not bear on the kind that counts. -/
theorem code_primary?_eq_of_perm {others : List Breach}
    (hknown : ∀ breach ∈ breaches, breach.code ∈ Code.catalogue) (hperm : breaches.Perm others) :
    (primary? breaches).map Breach.code = (primary? others).map Breach.code := by
  cases hprimary : primary? breaches with
  | none =>
      rw [primary?_eq_none_iff] at hprimary
      subst hprimary
      rw [← hperm.nil_eq]
      rfl
  | some breach =>
      cases hother : primary? others with
      | none =>
          rw [primary?_eq_none_iff] at hother
          subst hother
          rw [hperm.eq_nil] at hprimary
          cases hprimary
      | some other =>
          have hprecedence := precedence_eq_of_perm hperm hprimary hother
          have hcode := hknown breach (mem_of_primary?_eq_some hprimary)
          rw [Option.map_some, Option.map_some, Code.eq_of_precedence_eq hcode hprecedence]

/-- Some breach counts unless there is none.  It is the one at the only place at which a breach is
not less grave than any other and graver than all in front of it.  Among two lists it is the one that
counts among those that count in each of them.  As long as all kinds are known, the order of the
breaches does not bear on its kind. -/
theorem primary?_selects_foremost (breaches : List Breach) :
    (primary? breaches = none ↔ breaches = []) ∧
    (breaches ≠ [] → ∃! place, ∃ breach, IsForemost breaches place breach) ∧
    (∀ place breach, IsForemost breaches place breach →
      primary? breaches = some breach ∧ primaryIndex? breaches = some place) ∧
    (∀ later, primary? (breaches ++ later) =
      primary? ((primary? breaches).toList ++ (primary? later).toList)) ∧
    ((∀ breach ∈ breaches, breach.code ∈ Code.catalogue) → ∀ others, breaches.Perm others →
      (primary? breaches).map Breach.code = (primary? others).map Breach.code) := by
  refine ⟨primary?_eq_none_iff, ?_, ?_, ?_, fun hknown others => code_primary?_eq_of_perm hknown⟩
  · intro hne
    obtain ⟨breach, hprimary⟩ := Option.ne_none_iff_exists'.1 (mt primary?_eq_none_iff.1 hne)
    obtain ⟨place, hforemost⟩ := isForemost_of_primary? hprimary
    refine ⟨place, ⟨breach, hforemost⟩, ?_⟩
    rintro otherPlace ⟨other, hother⟩
    exact (hother.unique hforemost).1
  · intro place breach hforemost
    exact ⟨hforemost.primary?_eq, hforemost.primaryIndex?_eq⟩
  · intro later
    rw [primary?_append, primary?_append, primary?_toList, primary?_toList]

/-- Four breaches, of which the second and the last are equally grave. -/
def mixedBreaches : List Breach :=
  [.insufficientFunds 10 "USD" 1000, .accountCurrencies, .sameAccount, .foreignCurrency "EUR" "USD"]

/-- Of the two gravest ones the first counts; from behind it is the other one, of the same kind. -/
theorem primary?_mixedBreaches :
    primary? mixedBreaches = some .accountCurrencies ∧
      primary? mixedBreaches.reverse ≠ some .accountCurrencies ∧
      (primary? mixedBreaches.reverse).map Breach.code = some .currencyMismatch := by
  have hprimary : primary? mixedBreaches = some .accountCurrencies := by decide
  obtain ⟨-, -, -, -, hkinds⟩ := primary?_selects_foremost mixedBreaches
  have hreverse := hkinds (by decide) mixedBreaches.reverse (List.reverse_perm _).symm
  rw [hprimary] at hreverse
  exact ⟨hprimary, by decide, hreverse.symm⟩

end FundsTransfer
