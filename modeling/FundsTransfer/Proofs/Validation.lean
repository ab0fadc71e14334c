import Mathlib.Data.List.Forall2
import FundsTransfer.Service

/-!
# Checking accounts one after another and all at once

A list of accounts is checked in two ways: one account after another, which stops at the first bad
one, or all of them, which collects what is wrong with each and tells its place.  Both come to the
same verdict, and both make the same complaints about an account, but for the wording of one: that
the account is no object.  All that is used of the validation is that it does to the parts of a value
what it is documented to do.

Main definitions:

- `Validation.IsDocumented`: what is used of a validation.
- `Validation.complaints`: the complaints about a single account.
- `ConcernMembers`: complaints about the members of an account, in their order.
- `Validation.IsFirstBad`: the complaints about the first bad account of a list.
- `Complaint.inRequest`: a complaint as it is worded for an account of a request.

Main results:

- Theorem `Validation.isDocumented_standard`: the standard validation is as documented.
- Theorem `complaints_in_order`: what is wrong with an account is told member by member.
- Theorems `eachAccount_eq_ok_iff`, `eachAccount_eq_error_iff`: checking one account after another.
- Theorems `list_account_eq_ok_iff`, `complaints_list_account`: checking all of them.
-/

namespace FundsTransfer

/-! ## Joint verdicts -/

namespace Checked

variable {Torn α : Type}

/-- Items pass together exactly when each of them passes. -/
theorem all_eq_ok_iff {start : Nat} {items : List (Checked α)} {values : List α} :
    all start items = .ok values ↔ List.Forall₂ (fun item value => item = .ok value) items values := by
  induction items generalizing start values with
  | nil => cases values <;> simp [all]
  | cons item rest ih =>
      have hitem : ∀ value, item.under (.index start) = .ok value ↔ item = .ok value := by
        intro value
        cases item <;> simp [under]
      simp only [all, map₂_eq_ok_iff, hitem, ih]
      constructor
      · rintro ⟨value, later, hvalue, hlater, rfl⟩
        exact .cons hvalue hlater
      · rintro (_ | ⟨hvalue, hlater⟩)
        exact ⟨_, _, hvalue, hlater, rfl⟩

/-- The complaints about items are those about each of them, with its place in front. -/
theorem complaints_all (start : Nat) (items : List (Checked α)) :
    (all start items).complaints =
      (items.zipIdx start).flatMap fun (item, i) => item.complaints.map (·.under (.index i)) := by
  induction items generalizing start with
  | nil => rfl
  | cons item rest ih =>
      rw [all, complaints_map₂, complaints_under, ih, List.zipIdx_cons, List.flatMap_cons]

/-- A verdict on a single value passes it, or finds one defect, and not that it is no account. -/
def IsPlain (verdict : Checked α) : Prop :=
  (∃ a, verdict = .ok a) ∨ ∃ defect, defect ≠ .notAccount ∧ verdict = fail defect

theorem isPlain_ok (a : α) : IsPlain (.ok a : Checked α) :=
  Or.inl ⟨a, rfl⟩

theorem isPlain_fail {defect : Defect} (hdefect : defect ≠ .notAccount) :
    IsPlain (fail defect : Checked α) :=
  Or.inr ⟨defect, hdefect, rfl⟩

/-- At most one complaint is made about a member. -/
theorem complaints_field {check : Value Torn → Checked α}
    (hcheck : ∀ value, IsPlain (check value)) (members : List (String × Value Torn))
    (name : String) :
    (field members name check).complaints = [] ∨
      ∃ defect, defect ≠ .notAccount ∧
        (field members name check).complaints = [⟨[.name name], defect⟩] := by
  cases hlookup : Value.lookup name members with
  | none =>
      refine Or.inr ⟨.missing, by decide, ?_⟩
      rw [field, hlookup]
      rfl
  | some value =>
      rcases hcheck value with ⟨a, hpassed⟩ | ⟨defect, hdefect, hfailed⟩
      · refine Or.inl ?_
        simp only [field, hlookup, hpassed]
        rfl
      · refine Or.inr ⟨defect, hdefect, ?_⟩
        simp only [field, hlookup, hfailed]
        rfl

end Checked

/-! ## The standard validation -/

variable {Torn : Type}

theorem isPlain_checkText (value : Value Torn) : (checkText value).IsPlain := by
  cases value with
  | str text => exact Checked.isPlain_ok text
  | _ => exact Checked.isPlain_fail (by decide)

theorem isPlain_checkDecimal (negative : Bool) (digits : Nat) (exponent : Int) :
    (checkDecimal negative digits exponent).IsPlain := by
  unfold checkDecimal
  split
  · exact Checked.isPlain_fail (by decide)
  · split
    · exact Checked.isPlain_ok _
    · exact Checked.isPlain_fail (by decide)

theorem isPlain_checkEntered (text : String) : (checkEntered text).IsPlain := by
  unfold checkEntered
  split
  · exact Checked.isPlain_ok _
  · exact Checked.isPlain_fail (by decide)
  · exact Checked.isPlain_fail (by decide)

theorem isPlain_checkInteger (value : Value Torn) : (checkInteger value).IsPlain := by
  cases value with
  | int n => exact Checked.isPlain_ok n
  | bool b => exact Checked.isPlain_ok _
  | decimal negative digits exponent => exact isPlain_checkDecimal negative digits exponent
  | str text => exact isPlain_checkEntered text
  | _ => exact Checked.isPlain_fail (by decide)

/-- What a validation is documented to do.  A text passes as it is, and a single value is good or has
one defect.  The items of a list are checked one by one, and all complaints about them are reported
with their places; so are the members of an object, in the order in which they are described.  Any
other value is no object. -/
structure Validation.IsDocumented (v : Validation Torn) : Prop where
  text_str (text : String) : v.text (.str text) = .ok text
  isPlain_text (value : Value Torn) : (v.text value).IsPlain
  isPlain_integer (value : Value Torn) : (v.integer value).IsPlain
  list_eq_ok_iff {α : Type} (check : Value Torn → Checked α) (items : List (Value Torn))
    (values : List α) :
    v.list check (.arr items) = .ok values ↔
      List.Forall₂ (fun item value => check item = .ok value) items values
  complaints_list {α : Type} (check : Value Torn → Checked α) (items : List (Value Torn)) :
    (v.list check (.arr items)).complaints =
      items.zipIdx.flatMap fun (item, i) => (check item).complaints.map (·.under (.index i))
  model_obj {α : Type} (otherwise : Defect) (fields : Fields Torn α)
    (members : List (String × Value Torn)) :
    v.model otherwise fields (.obj members) = fields.verdict members
  model_other {α : Type} (otherwise : Defect) (fields : Fields Torn α) (value : Value Torn) :
    (∀ members, value ≠ .obj members) → v.model otherwise fields value = Checked.fail otherwise

/-- The standard validation does what a validation is documented to do. -/
theorem Validation.isDocumented_standard : (Validation.standard : Validation Torn).IsDocumented where
  text_str _ := rfl
  isPlain_text := isPlain_checkText
  isPlain_integer := isPlain_checkInteger
  list_eq_ok_iff _ _ _ := Checked.all_eq_ok_iff.trans List.forall₂_map_left_iff
  complaints_list check items := by
    change (Checked.all 0 (items.map check)).complaints = _
    rw [Checked.complaints_all, List.zipIdx_map, List.flatMap_map]
    rfl
  model_obj _ _ _ := rfl
  model_other otherwise fields value hvalue := by
    cases value with
    | obj members => exact absurd rfl (hvalue members)
    | _ => rfl

/-! ## Single accounts -/

/-- A complaint as it is worded for an account of a request: there, an account that is no object is
told so in other words. -/
def Complaint.inRequest (complaint : Complaint) : Complaint :=
  if complaint.defect = .notAccount then { complaint with defect := .notObject } else complaint

/-- The wording of a complaint has no bearing on its path. -/
@[simp]
theorem Complaint.path_inRequest (complaint : Complaint) :
    complaint.inRequest.path = complaint.path := by
  unfold Complaint.inRequest
  split <;> rfl

/-- Complaints concern the members of an account, each at most once and in their order. -/
structure ConcernMembers (complaints : List Complaint) : Prop where
  sublist : (complaints.map Complaint.path).Sublist
    [[.name "id"], [.name "balance"], [.name "currency"]]
  defect_ne : ∀ complaint ∈ complaints, complaint.defect ≠ .notAccount

/-- Complaints about members are worded alike in a request. -/
theorem ConcernMembers.map_inRequest {found : List Complaint} (hfound : ConcernMembers found) :
    found.map Complaint.inRequest = found := by
  refine (List.map_congr_left fun complaint hmem => ?_).trans (List.map_id found)
  exact if_neg (hfound.defect_ne complaint hmem)

namespace Validation

variable {v : Validation Torn}

/-- The complaints about an account. -/
def complaints (v : Validation Torn) (value : Value Torn) : List Complaint :=
  (v.account .notAccount value).complaints

/-- The complaints about the members of an account. -/
theorem complaints_accountFields (members : List (String × Value Torn)) :
    (v.accountFields.verdict members).complaints =
      (Checked.field members "id" v.text).complaints ++
        (Checked.field members "balance" v.integer).complaints ++
        (Checked.field members "currency" v.text).complaints := by
  simp only [accountFields, Fields.verdict, Checked.complaints_map₂, Checked.complaints_ok,
    List.nil_append]

variable (hv : v.IsDocumented)
include hv

/-- An account is checked by its members, and what is no object is no account. -/
theorem account_cases (value : Value Torn) :
    (∃ members, ∀ otherwise, v.account otherwise value = v.accountFields.verdict members) ∨
      ∀ otherwise, v.account otherwise value = Checked.fail otherwise := by
  by_cases hvalue : ∃ members, value = .obj members
  · obtain ⟨members, rfl⟩ := hvalue
    exact Or.inl ⟨members, fun otherwise => hv.model_obj otherwise _ members⟩
  · refine Or.inr fun otherwise => hv.model_other otherwise _ value fun members hmembers => ?_
    exact hvalue ⟨members, hmembers⟩

/-- What is wrong with an object is told member by member. -/
theorem concernMembers_accountFields (members : List (String × Value Torn)) :
    ConcernMembers (v.accountFields.verdict members).complaints := by
  have hone : ∀ {name : String} {found : List Complaint},
      (found = [] ∨ ∃ defect, defect ≠ .notAccount ∧ found = [⟨[.name name], defect⟩]) →
      (found.map Complaint.path).Sublist [[.name name]] ∧
        ∀ complaint ∈ found, complaint.defect ≠ .notAccount := by
    rintro name found (rfl | ⟨defect, hdefect, rfl⟩)
    · exact ⟨List.nil_sublist _, by simp⟩
    · exact ⟨List.Sublist.refl _, by simpa using hdefect⟩
  obtain ⟨hid, hidDefect⟩ := hone (Checked.complaints_field hv.isPlain_text members "id")
  obtain ⟨hbalance, hbalanceDefect⟩ :=
    hone (Checked.complaints_field hv.isPlain_integer members "balance")
  obtain ⟨hcurrency, hcurrencyDefect⟩ :=
    hone (Checked.complaints_field hv.isPlain_text members "currency")
  rw [complaints_accountFields]
  constructor
  · rw [List.map_append, List.map_append]
    exact (hid.append hbalance).append hcurrency
  · intro complaint hmem
    simp only [List.mem_append] at hmem
    rcases hmem with (hfirst | hsecond) | hthird
    · exact hidDefect complaint hfirst
    · exact hbalanceDefect complaint hsecond
    · exact hcurrencyDefect complaint hthird

/-- What is wrong with an account is told member by member, unless it is no object. -/
theorem complaints_in_order (value : Value Torn) :
    v.complaints value = [⟨[], .notAccount⟩] ∨ ConcernMembers (v.complaints value) := by
  unfold complaints
  rcases account_cases hv value with ⟨members, hmembers⟩ | hother
  · rw [hmembers]
    exact Or.inr (concernMembers_accountFields hv members)
  · rw [hother]
    exact Or.inl rfl

/-- In a request the same accounts pass, and the complaints about others differ in wording only. -/
theorem account_notObject (value : Value Torn) :
    v.account .notObject value =
      (v.account .notAccount value).mapError (·.map Complaint.inRequest) := by
  rcases account_cases hv value with ⟨members, hmembers⟩ | hother
  · have hconcern := concernMembers_accountFields hv members
    rw [hmembers, hmembers]
    cases hchecked : v.accountFields.verdict members with
    | ok account => rfl
    | error found =>
        rw [hchecked, Checked.complaints_error] at hconcern
        rw [Except.mapError, hconcern.map_inRequest]
  · rw [hother, hother]
    rfl

omit hv

/-! ## Accounts one after another -/

/-- Accounts pass one after another exactly when each of them passes. -/
theorem eachAccount_eq_ok_iff {values : List (Value Torn)} {accounts : List Account} :
    v.eachAccount values = .ok accounts ↔
      List.Forall₂ (fun value account => v.account .notAccount value = .ok account)
        values accounts := by
  induction values generalizing accounts with
  | nil => cases accounts <;> simp [eachAccount]
  | cons value rest ih =>
      rw [eachAccount_cons_eq_ok_iff]
      constructor
      · rintro ⟨account, later, haccount, hlater, rfl⟩
        exact .cons haccount (ih.1 hlater)
      · rintro (_ | ⟨haccount, hlater⟩)
        exact ⟨_, _, haccount, ih.2 hlater, rfl⟩

/-- Complaints are those about the first bad account of a list: all accounts before it pass. -/
def IsFirstBad (v : Validation Torn) (values : List (Value Torn)) (found : List Complaint) : Prop :=
  ∃ before value after, values = before ++ value :: after ∧
    (∀ good ∈ before, ∃ account, v.account .notAccount good = .ok account) ∧
    v.account .notAccount value = .error found

/-- The first bad account of a list is its first account, or the first bad one of the others. -/
theorem isFirstBad_cons_iff {first : Value Torn} {rest : List (Value Torn)}
    {found : List Complaint} :
    v.IsFirstBad (first :: rest) found ↔
      v.account .notAccount first = .error found ∨
        (∃ account, v.account .notAccount first = .ok account) ∧ v.IsFirstBad rest found := by
  constructor
  · rintro ⟨_ | ⟨good, before⟩, value, after, hvalues, hbefore, hvalue⟩
    · cases hvalues
      exact Or.inl hvalue
    · cases hvalues
      refine Or.inr ⟨hbefore first List.mem_cons_self, before, value, after, rfl, ?_, hvalue⟩
      exact fun other hmem => hbefore other (List.mem_cons_of_mem _ hmem)
  · rintro (hfirst | ⟨hfirst, before, value, after, rfl, hbefore, hvalue⟩)
    · exact ⟨[], first, rest, rfl, by simp, hfirst⟩
    · refine ⟨first :: before, value, after, rfl, ?_, hvalue⟩
      exact List.forall_mem_cons.2 ⟨hfirst, hbefore⟩

/-- Checking one account after another stops at the first bad one. -/
theorem eachAccount_eq_error_iff {values : List (Value Torn)} {found : List Complaint} :
    v.eachAccount values = .error found ↔ v.IsFirstBad values found := by
  induction values with
  | nil => simp [eachAccount, IsFirstBad]
  | cons first rest ih =>
      rw [isFirstBad_cons_iff, ← ih]
      cases hfirst : v.account .notAccount first <;> cases hrest : v.eachAccount rest <;>
        simp [eachAccount, hfirst, hrest, bind, Except.bind, pure, Except.pure]

/-! ## Accounts all at once -/

include hv

/-- Accounts pass all at once exactly when they pass one after another. -/
theorem list_account_eq_ok_iff {values : List (Value Torn)} {accounts : List Account} :
    v.list (v.account .notObject) (.arr values) = .ok accounts ↔
      v.eachAccount values = .ok accounts := by
  have hsame : ∀ value account, v.account .notObject value = .ok account ↔
      v.account .notAccount value = .ok account := by
    intro value account
    rw [account_notObject hv]
    cases v.account .notAccount value <;> simp [Except.mapError]
  rw [hv.list_eq_ok_iff, eachAccount_eq_ok_iff]
  simp only [hsame]

/-- The complaints about accounts that are checked all at once are those about each of them, with its
place in front. -/
theorem complaints_list_account (values : List (Value Torn)) :
    (v.list (v.account .notObject) (.arr values)).complaints =
      values.zipIdx.flatMap fun (value, i) =>
        (v.complaints value).map fun complaint => complaint.inRequest.under (.index i) := by
  have hown : ∀ value, (v.account .notObject value).complaints =
      (v.complaints value).map Complaint.inRequest := by
    intro value
    rw [account_notObject hv, complaints]
    cases v.account .notAccount value <;> rfl
  rw [hv.complaints_list]
  refine List.flatMap_congr fun item _ => ?_
  simp only [hown, List.map_map]
  rfl

end Validation

end FundsTransfer
