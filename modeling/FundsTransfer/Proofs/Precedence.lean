import Mathlib.Data.List.Nodup
import FundsTransfer.Breach

/-!
# Precedence of breaches

The breach that counts is picked by comparing precedences.  This module shows that the same breach
is found by going through the catalogue, the gravest kind first, and taking the first breach of the
first kind that occurs at all.

Main results:

- Theorem `precedence_le_of_primary?_eq_some`: no breach is graver than the one that counts.
- Theorem `primary?_append_cons`: a breach counts when the earlier ones are less grave and the later
  ones are not graver.
- Theorem `primary?_eq_findSome?`: the breach that counts is the first one of the gravest kind.
-/

namespace FundsTransfer

/-! ## Places in the catalogue -/

/-- No kind of breach has two places in the catalogue. -/
theorem Code.nodup_catalogue : Code.catalogue.Nodup := by
  decide

/-- A kind that is not among the first ones of the catalogue comes after them. -/
theorem Code.length_lt_precedence {code : Code} {earlier later : List Code}
    (hcatalogue : Code.catalogue = earlier ++ later) (hcode : code ∉ earlier) :
    earlier.length < code.precedence := by
  rw [Code.precedence, hcatalogue, List.idxOf_append_of_notMem hcode]
  omega

/-- The precedence of a kind counts the kinds in front of it. -/
theorem Code.precedence_of_eq_append {code : Code} {earlier later : List Code}
    (hcatalogue : Code.catalogue = earlier ++ code :: later) :
    code.precedence = earlier.length + 1 := by
  have hnodup : (earlier ++ code :: later).Nodup := hcatalogue ▸ Code.nodup_catalogue
  have hcode : code ∉ earlier := by
    intro hmem
    exact List.disjoint_of_nodup_append hnodup hmem List.mem_cons_self
  rw [Code.precedence, hcatalogue, List.idxOf_append_of_notMem hcode, List.idxOf_cons_self]

/-- All kinds outside the catalogue share the place after its end. -/
theorem Code.precedence_of_notMem {code : Code} (hcode : code ∉ Code.catalogue) :
    code.precedence = Code.catalogue.length + 1 := by
  rw [Code.precedence, List.idxOf_eq_length hcode]

/-- The kinds that make an instruction unreadable are the first three of the catalogue. -/
theorem Code.isUnreadable_iff_precedence_le (code : Code) :
    code.isUnreadable = true ↔ code.precedence ≤ 3 := by
  cases code with
  | other text =>
      have hplace : (Code.other text).precedence = 12 :=
        Code.precedence_of_notMem (by simp [catalogue])
      simp [isUnreadable, hplace]
  | _ => decide

/-- The kinds of breaches that make an instruction unreadable have these codes. -/
theorem Code.text_mem_of_isUnreadable {code : Code} (hunreadable : code.isUnreadable = true) :
    code.text ∈ ["SY01", "SY02", "SY03"] := by
  cases code <;> simp_all [isUnreadable, text]

/-! ## The breach that counts -/

/-- A breach in front of others yields to the one that counts among them only if that is graver. -/
theorem primary?_cons_of_eq_some {first later : Breach} {rest : List Breach}
    (hlater : primary? rest = some later) :
    primary? (first :: rest) = some (graver first later) := by
  simp [primary?, hlater]

/-- The breach that counts is one of the breaches. -/
theorem mem_of_primary?_eq_some {breaches : List Breach} {breach : Breach}
    (hprimary : primary? breaches = some breach) : breach ∈ breaches := by
  induction breaches generalizing breach with
  | nil => simp at hprimary
  | cons first rest ih =>
      cases hrest : primary? rest with
      | none =>
          simp only [primary?, hrest, Option.some.injEq] at hprimary
          exact hprimary ▸ List.mem_cons_self
      | some later =>
          rw [primary?_cons_of_eq_some hrest, Option.some.injEq] at hprimary
          rw [← hprimary]
          rcases graver_eq_or_eq first later with hfirst | hlater
          · rw [hfirst]
            exact List.mem_cons_self
          · rw [hlater]
            exact List.mem_cons_of_mem _ (ih hrest)

/-- No breach is graver than the one that counts. -/
theorem precedence_le_of_primary?_eq_some {breaches : List Breach} {breach other : Breach}
    (hprimary : primary? breaches = some breach) (hother : other ∈ breaches) :
    breach.precedence ≤ other.precedence := by
  induction breaches generalizing breach with
  | nil => simp at hother
  | cons first rest ih =>
      cases hrest : primary? rest with
      | none =>
          rw [primary?_eq_none_iff] at hrest
          subst hrest
          rw [primary?_singleton, Option.some.injEq] at hprimary
          have hequal : other = breach := (List.mem_singleton.1 hother).trans hprimary
          exact Nat.le_of_eq (congrArg Breach.precedence hequal.symm)
      | some later =>
          rw [primary?_cons_of_eq_some hrest, Option.some.injEq] at hprimary
          rw [← hprimary, precedence_graver]
          rcases List.mem_cons.1 hother with rfl | hmem
          · exact Nat.min_le_left _ _
          · exact Nat.le_trans (Nat.min_le_right _ _) (ih hrest hmem)

/-- If the breach that counts leaves an instruction readable, so do all. -/
theorem isUnreadable_eq_false_of_primary? {breaches : List Breach} {breach other : Breach}
    (hprimary : primary? breaches = some breach) (hreadable : breach.code.isUnreadable = false)
    (hother : other ∈ breaches) : other.code.isUnreadable = false := by
  have hle := precedence_le_of_primary?_eq_some hprimary hother
  rw [Bool.eq_false_iff] at hreadable ⊢
  intro hunreadable
  apply hreadable
  rw [Code.isUnreadable_iff_precedence_le] at hunreadable ⊢
  exact Nat.le_trans hle hunreadable

/-- A breach counts when the earlier ones are less grave and the later ones are not graver. -/
theorem primary?_append_cons {earlier later : List Breach} {breach : Breach}
    (hearlier : ∀ other ∈ earlier, breach.precedence < other.precedence)
    (hlater : ∀ other ∈ later, breach.precedence ≤ other.precedence) :
    primary? (earlier ++ breach :: later) = some breach := by
  induction earlier with
  | nil =>
      cases hrest : primary? later with
      | none => simp [primary?, hrest]
      | some other =>
          have hle := hlater other (mem_of_primary?_eq_some hrest)
          rw [List.nil_append, primary?_cons_of_eq_some hrest, graver, if_neg (by omega)]
  | cons first rest ih =>
      have hrest : primary? (rest ++ breach :: later) = some breach := by
        apply ih
        intro other hother
        exact hearlier other (List.mem_cons_of_mem _ hother)
      have hlt := hearlier first List.mem_cons_self
      rw [List.cons_append, primary?_cons_of_eq_some hrest, graver, if_pos hlt]

/-- The first breach counts when all breaches are equally grave. -/
theorem primary?_eq_head? {breaches : List Breach} (place : Nat)
    (hequal : ∀ breach ∈ breaches, breach.precedence = place) :
    primary? breaches = breaches.head? := by
  cases breaches with
  | nil => rfl
  | cons first rest =>
      have hfirst := hequal first List.mem_cons_self
      change primary? ([] ++ first :: rest) = some first
      apply primary?_append_cons
      · simp
      · intro other hother
        exact Nat.le_of_eq (hfirst.trans (hequal other (List.mem_cons_of_mem _ hother)).symm)

/-- The breach that counts is the first one of the gravest kind that occurs: the catalogue is gone
through in its order, and only if no breach is of a kind in it the first of all breaches counts. -/
theorem primary?_eq_findSome? (breaches : List Breach) :
    primary? breaches =
      (Code.catalogue.findSome? fun code => breaches.find? (·.code == code)).or
        breaches.head? := by
  cases hfound : Code.catalogue.findSome? fun code => breaches.find? (·.code == code) with
  | none =>
      rw [List.findSome?_eq_none_iff] at hfound
      apply primary?_eq_head? (Code.catalogue.length + 1)
      intro breach hbreach
      apply Code.precedence_of_notMem
      intro hmem
      have hnone := hfound breach.code hmem
      rw [List.find?_eq_none] at hnone
      exact hnone breach hbreach (by simp)
  | some breach =>
      rw [List.findSome?_eq_some_iff] at hfound
      rcases hfound with ⟨graverKinds, code, others, hcatalogue, hfind, habsent⟩
      rw [List.find?_eq_some_iff_append] at hfind
      rcases hfind with ⟨hcode, earlier, later, hsplit, hearlier⟩
      have hplace : breach.precedence = graverKinds.length + 1 := by
        rw [Breach.precedence, beq_iff_eq.1 hcode]
        exact Code.precedence_of_eq_append hcatalogue
      -- None of the breaches is of a kind in front of the one that is found.
      have hkind : ∀ other ∈ breaches, other.code ∉ graverKinds := by
        intro other hother hmem
        have hnone := habsent other.code hmem
        rw [List.find?_eq_none] at hnone
        exact hnone other hother (by simp)
      subst hsplit
      apply primary?_append_cons
      · intro other hother
        have hmem : other ∈ earlier ++ breach :: later := List.mem_append_left _ hother
        have hne : other.code ∉ graverKinds ++ [code] := by
          have hother' : other.code ≠ code := by simpa using hearlier other hother
          simp [hkind other hmem, hother']
        have hlt : (graverKinds ++ [code]).length < other.precedence :=
          Code.length_lt_precedence (by simpa using hcatalogue) hne
        rw [List.length_append, List.length_singleton] at hlt
        omega
      · intro other hother
        have hmem : other ∈ earlier ++ breach :: later :=
          List.mem_append_right _ (List.mem_cons_of_mem _ hother)
        have hlt : graverKinds.length < other.precedence :=
          Code.length_lt_precedence hcatalogue (hkind other hmem)
        omega

/-- Among breaches of known kinds the one that counts is the first one of the gravest kind. -/
theorem primary?_eq_findSome?_of_mem {breaches : List Breach}
    (hknown : ∀ breach ∈ breaches, breach.code ∈ Code.catalogue) :
    primary? breaches =
      Code.catalogue.findSome? fun code => breaches.find? (·.code == code) := by
  rw [primary?_eq_findSome?]
  cases hfound : Code.catalogue.findSome? fun code => breaches.find? (·.code == code) with
  | some breach => rfl
  | none =>
      rw [List.findSome?_eq_none_iff] at hfound
      cases breaches with
      | nil => rfl
      | cons first rest =>
          have hnone := hfound first.code (hknown first List.mem_cons_self)
          simp at hnone

end FundsTransfer
