/-!
# Accounts

The accounts on offer form a list in which an id may occur more than once; the first account with
an id is the one that the id names.

Main definitions:

- `Account`: an id, a balance in minor units and a currency.
- `isWellFormedId`: the texts that may be the id of an account in an instruction.
- `Account.find?`, `Account.position?`: the account that an id names, and its place.
-/

namespace FundsTransfer

/-- An account, with its balance in minor units of its currency. -/
structure Account where
  id : String
  balance : Int
  currency : String
deriving DecidableEq, Repr

/-- The characters of account ids: ASCII letters and digits, dash, point and at sign. -/
def isIdChar (c : Char) : Bool :=
  c.isAlphanum || c == '-' || c == '.' || c == '@'

/-- A text is a well-formed id when all its characters are characters of ids. -/
def isWellFormedId (id : String) : Bool :=
  id.toList.all isIdChar

/-- The characters of ids, spelled out. -/
theorem isIdChar_iff {c : Char} :
    isIdChar c = true ↔
      'A' ≤ c ∧ c ≤ 'Z' ∨ 'a' ≤ c ∧ c ≤ 'z' ∨ '0' ≤ c ∧ c ≤ '9' ∨ c ∈ ['-', '.', '@'] := by
  have hclasses : isIdChar c =
      (c.isUpper || c.isLower || c.isDigit || c == '-' || c == '.' || c == '@') := rfl
  have hupper : c.isUpper = true ↔ 'A' ≤ c ∧ c ≤ 'Z' := decide_eq_true_iff
  have hlower : c.isLower = true ↔ 'a' ≤ c ∧ c ≤ 'z' := by
    refine (Bool.and_eq_true _ _).to_iff.trans ?_
    exact and_congr decide_eq_true_iff decide_eq_true_iff
  have hdigit : c.isDigit = true ↔ '0' ≤ c ∧ c ≤ '9' := by
    refine (Bool.and_eq_true _ _).to_iff.trans ?_
    exact and_congr decide_eq_true_iff decide_eq_true_iff
  simp only [hclasses, Bool.or_eq_true, hupper, hlower, hdigit, beq_iff_eq, List.mem_cons,
    List.not_mem_nil, or_false, or_assoc]

/-- A text is no well-formed id exactly if one of its characters is none of those. -/
theorem isWellFormedId_eq_false_iff {id : String} :
    isWellFormedId id = false ↔
      ∃ c ∈ id.toList,
        ¬ ('A' ≤ c ∧ c ≤ 'Z' ∨ 'a' ≤ c ∧ c ≤ 'z' ∨ '0' ≤ c ∧ c ≤ '9' ∨ c ∈ ['-', '.', '@']) := by
  simp only [isWellFormedId, List.all_eq_false, isIdChar_iff]

namespace Account

/-- The first account with the given id; an absent id names no account. -/
def find? (accounts : List Account) (id : Option String) : Option Account :=
  id.bind fun id => accounts.find? (·.id == id)

/-- The place of the first account with the given id. -/
def position? (accounts : List Account) (id : Option String) : Option Nat :=
  id.bind fun id => accounts.findIdx? (·.id == id)

@[simp]
theorem find?_none (accounts : List Account) : find? accounts none = none := rfl

/-- The account that is found has the id that was looked for. -/
theorem id_of_find?_eq_some {accounts : List Account} {id : String} {account : Account}
    (h : find? accounts (some id) = some account) : account.id = id := by
  simpa using List.find?_some h

/-- The account that is found is one of the accounts. -/
theorem mem_of_find?_eq_some {accounts : List Account} {id : Option String} {account : Account}
    (h : find? accounts id = some account) : account ∈ accounts := by
  obtain ⟨id, rfl, h⟩ := Option.bind_eq_some_iff.1 h
  exact List.mem_of_find?_eq_some h

/-- After a change that leaves the ids as they are, the account that is found is the one that was found
before, changed. -/
theorem find?_map {change : Account → Account} (hid : ∀ account, (change account).id = account.id)
    (accounts : List Account) (id : Option String) :
    find? (accounts.map change) id = (find? accounts id).map change := by
  cases id with
  | none => rfl
  | some id =>
    have hkeeps : ((·.id == id) ∘ change) = (·.id == id) := by
      funext account
      simp only [Function.comp_apply, hid]
    rw [find?, Option.bind_some, List.find?_map, hkeeps]
    rfl

end Account

end FundsTransfer
