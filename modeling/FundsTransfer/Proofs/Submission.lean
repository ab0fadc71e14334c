import Mathlib
import FundsTransfer.Proofs.Amount
import FundsTransfer.Proofs.Settlement
import FundsTransfer.Proofs.Validation

/-!
# Posting an instruction

An instruction that is posted to the service is answered as it is answered on the spot, and a list with
bad accounts is refused either way: the service tells what is wrong with all of them, and names their
places.  The service has no reply if the content of the reply cannot be written.  A response cannot be
written if one of its numbers has too many digits.  A refusal repeats the values that it is about, so
that it cannot be written if one of these has a number that is not finite, a string that is no text, or
too many lists and objects inside one another.

Main definitions:

- `Framework.IsDocumented`: what is used of a framework.
- `Framework.Posts`: a request with accounts and an instruction in its body.
- `Framework.refusals`: what the service tells of a list of accounts.
- `Framework.AreRepeatable`: accounts about which nothing has to be told that cannot be written.
- `Response.HasShortNumbers`: a response whose numbers can be written.

Main results:

- Theorem `handle_of_posts`: the reply to a request that posts accounts and an instruction.
- Theorem `isWritable_response_iff`: which responses can be written.
- Theorem `isWritable_refusals_iff`: which refusals can be written.
- Theorem `posted_accords_with_answer`: the reply of the service and the answer on the spot.
-/

namespace FundsTransfer

/-! ## Requests -/

/-- What a framework is documented to do: it validates values, and it writes what can be written. -/
structure Framework.IsDocumented (fw : Framework) : Prop extends fw.toValidation.IsDocumented where
  obstacle?_eq_none_iff (value : RawJson) :
    fw.obstacle? value = none ↔ value.isWritable (fw.room + 4) = true

/-- The standard framework does what a framework is documented to do. -/
theorem Framework.isDocumented_standard : Framework.standard.IsDocumented where
  toIsDocumented := Validation.isDocumented_standard
  obstacle?_eq_none_iff _ := Value.obstacle?_eq_none_iff

/-- A request posts accounts and an instruction: its body is read as an object with these two
members. -/
structure Framework.Posts (fw : Framework) (request : Request) (accounts : List RawJson)
    (instruction : String) : Prop where
  path_eq : fw.path request.reference = .ok "/payment-instructions"
  method_eq : Text.upper request.method = "POST"
  exists_members : ∃ members, fw.read request.body = .ok (.value (.obj members)) ∧
    Value.lookup "accounts" members = some (.arr accounts) ∧
    Value.lookup "instruction" members = some (.str instruction)

/-- A complaint about an account, as one about the account at a place of a posted list. -/
def Complaint.inBody (i : Nat) (complaint : Complaint) : Complaint where
  path := .name "body" :: .name "accounts" :: .index i :: complaint.path
  defect := complaint.inRequest.defect

/-- The numbers of a response have at most `digitLimit` digits. -/
structure Response.HasShortNumbers (response : Response) : Prop where
  amount : ∀ n ∈ response.amount, Numeral.IsShort n.natAbs
  views : ∀ view ∈ response.views,
    Numeral.IsShort view.balance.natAbs ∧ Numeral.IsShort view.balanceBefore.natAbs

namespace Framework

variable {fw : Framework}

/-- The reply to a request that posts an object is that to the object. -/
theorem handle_of_posts {request : Request} {accounts : List RawJson} {instruction : String}
    (hposts : fw.Posts request accounts instruction) (today : Calendar.Date) :
    ∃ members, Value.lookup "accounts" members = some (.arr accounts) ∧
      Value.lookup "instruction" members = some (.str instruction) ∧
      fw.handle request today = fw.postValue (.obj members) today := by
  obtain ⟨members, hread, haccounts, hinstruction⟩ := hposts.exists_members
  refine ⟨members, haccounts, hinstruction, ?_⟩
  have hroute : Route.ofPath? "/payment-instructions" = some .instructions := rfl
  simp only [handle, hposts.path_eq, bind, Except.bind, hroute, reply, hposts.method_eq, hread, post]

/-! ## Refusals -/

/-- What the service tells of a list of accounts: the complaints about each, with its place and with
the values that they are about. -/
def refusals (fw : Framework) (accounts : List RawJson) : List (Complaint × RawJson) :=
  accounts.zipIdx.flatMap fun (value, i) =>
    (fw.complaints value).map fun complaint => (complaint.inBody i, complaint.subject value)

/-- The complaints about the accounts of a posted object, before it is known to be the body. -/
def accountComplaints (fw : Framework) (accounts : List RawJson) : List Complaint :=
  accounts.zipIdx.flatMap fun (value, i) =>
    (fw.complaints value).map fun complaint =>
      (complaint.inRequest.under (.index i)).under (.name "accounts")

/-- The complaints about accounts tell places that can be written, and are about values that can be. -/
def AreRepeatable (fw : Framework) (accounts : List RawJson) : Prop :=
  ∀ place ∈ accounts.zipIdx, ∀ complaint ∈ fw.complaints place.1,
    Numeral.IsShort place.2 ∧ (complaint.subject place.1).isWritable (fw.room + 1) = true

section Members

variable {members : List (String × RawJson)} {accounts : List RawJson} {instruction : String}
  (haccounts : Value.lookup "accounts" members = some (.arr accounts))
  (hinstruction : Value.lookup "instruction" members = some (.str instruction))
include haccounts

/-- A complaint about an account of a request is about the same part as the complaint about the account
alone. -/
theorem subject_under_accounts {value : RawJson} {i : Nat} (hvalue : accounts[i]? = some value)
    (complaint : Complaint) :
    ((complaint.inRequest.under (.index i)).under (.name "accounts")).subject (.obj members) =
      complaint.subject value := by
  simp only [Complaint.subject, Complaint.under, reach, Key.select?, haccounts, hvalue,
    Complaint.path_inRequest]

/-- The service tells the complaints about accounts as ones about the body. -/
theorem map_accountComplaints (fw : Framework) :
    (fw.accountComplaints accounts).map (fun complaint =>
      (complaint.under (.name "body"), complaint.subject (.obj members))) =
        fw.refusals accounts := by
  simp only [accountComplaints, refusals, List.map_flatMap, List.map_map]
  refine List.flatMap_congr fun ⟨value, i⟩ hmem => ?_
  have hvalue : accounts[i]? = some value := List.mk_mem_zipIdx_iff_getElem?.1 hmem
  refine List.map_congr_left fun complaint _ => ?_
  simp only [Function.comp_apply, subject_under_accounts haccounts hvalue]
  simp only [Complaint.under, Complaint.inBody, Complaint.path_inRequest]

include hinstruction
variable (hfw : fw.IsDocumented)
include hfw

/-- A request with an instruction is checked like its accounts. -/
theorem submission_eq :
    fw.submission (.obj members) =
      ((fw.list (fw.account .notObject) (.arr accounts)).under (.name "accounts")).map
        fun records => ⟨records, instruction⟩ := by
  simp only [Validation.submission, hfw.model_obj, Validation.submissionFields, Fields.verdict,
    Checked.field, haccounts, hinstruction, hfw.text_str]
  cases fw.list (fw.account .notObject) (.arr accounts) with
  | ok records => rfl
  | error found => simp [Checked.under, Checked.map₂, Except.map]

/-- The service complains about accounts of which one is bad. -/
theorem submission_of_error {found : List Complaint}
    (hfound : fw.eachAccount accounts = .error found) :
    fw.submission (.obj members) = .error (fw.accountComplaints accounts) := by
  have hcomplaints := Validation.complaints_list_account hfw.toIsDocumented accounts
  cases hchecked : fw.list (fw.account .notObject) (.arr accounts) with
  | ok records =>
      rw [Validation.list_account_eq_ok_iff hfw.toIsDocumented, hfound] at hchecked
      cases hchecked
  | error all =>
      rw [hchecked, Checked.complaints_error] at hcomplaints
      rw [submission_eq haccounts hinstruction hfw, hchecked, hcomplaints, accountComplaints]
      simp only [Checked.under, Except.map, List.map_flatMap, List.map_map, Function.comp_def]

end Members

section Accounts

variable (hfw : fw.IsDocumented) {request : Request} {accounts : List RawJson}
  {instruction : String} (hposts : fw.Posts request accounts instruction)
include hfw hposts

/-- Accounts that pass are answered with the instruction. -/
theorem handle_of_ok {records : List Account} (hrecords : fw.eachAccount accounts = .ok records)
    (today : Calendar.Date) :
    fw.handle request today = fw.respond ⟨records, instruction⟩ today := by
  obtain ⟨members, haccounts, hinstruction, hhandle⟩ := handle_of_posts hposts today
  have hpassed := (Validation.list_account_eq_ok_iff hfw.toIsDocumented).2 hrecords
  rw [hhandle, postValue, submission_eq haccounts hinstruction hfw, hpassed]
  rfl

/-- Bad accounts are refused with all that is wrong with them. -/
theorem handle_of_error {found : List Complaint} (hfound : fw.eachAccount accounts = .error found)
    (today : Calendar.Date) :
    fw.handle request today = fw.send 400 (.refusal (fw.refusals accounts)) := by
  obtain ⟨members, haccounts, hinstruction, hhandle⟩ := handle_of_posts hposts today
  simp only [hhandle, postValue, submission_of_error haccounts hinstruction hfw hfound, refuse,
    map_accountComplaints haccounts]

/-- There is no reply to bad accounts if what is wrong with them cannot be written. -/
theorem handle_of_obstacle {found : List Complaint} {fault : Fault}
    (hfound : fw.eachAccount accounts = .error found)
    (hobstacle : fw.obstacle? (Content.refusal (fw.refusals accounts)).toJson = some fault)
    (today : Calendar.Date) : fw.handle request today = .error fault := by
  rw [handle_of_error hfw hposts hfound, send, hobstacle]

end Accounts

/-! ## Replies that can be written -/

/-- An integer may be written if it has at most `digitLimit` digits. -/
theorem isWritable_int_iff_isShort {Torn : Type} (levels : Nat) (n : Int) :
    (.int n : Value Torn).isWritable levels = true ↔ Numeral.IsShort n.natAbs := by
  rw [Numeral.isShort_iff, Value.isWritable_int_iff, Nat.pow_eq]

/-- An account may be shown if its balances can be written. -/
theorem isWritable_view_iff {Torn : Type} (levels : Nat) (view : View) :
    (view.toJson : Value Torn).isWritable (levels + 1) = true ↔
      Numeral.IsShort view.balance.natAbs ∧ Numeral.IsShort view.balanceBefore.natAbs := by
  simp only [View.toJson, Value.isWritable_obj_iff, List.forall_mem_cons, List.not_mem_nil,
    false_implies, implies_true, and_true, Value.isWritable_str, isWritable_int_iff_isShort, true_and]

/-- A response may be written if its numbers have at most `digitLimit` digits. -/
theorem isWritable_response_iff {Torn : Type} (levels : Nat) (response : Response) :
    (response.toJson : Value Torn).isWritable (levels + 3) = true ↔ response.HasShortNumbers := by
  have hamount : (.ofInt? response.amount : Value Torn).isWritable (levels + 2) = true ↔
      ∀ n ∈ response.amount, Numeral.IsShort n.natAbs := by
    simp only [Value.isWritable_ofInt?_iff, isWritable_int_iff_isShort]
  have hviews : (.arr (response.views.map View.toJson) : Value Torn).isWritable (levels + 2) = true ↔
      ∀ view ∈ response.views,
        Numeral.IsShort view.balance.natAbs ∧ Numeral.IsShort view.balanceBefore.natAbs := by
    simp only [Value.isWritable_arr_iff, List.forall_mem_map, isWritable_view_iff]
  simp only [Response.toJson, Value.isWritable_obj_iff, List.forall_mem_cons, List.not_mem_nil,
    false_implies, implies_true, and_true, true_and, Value.isWritable_str, Value.isWritable_ofText?,
    hamount, hviews]
  exact ⟨fun ⟨hnumber, hbalances⟩ => ⟨hnumber, hbalances⟩,
    fun ⟨hnumber, hbalances⟩ => ⟨hnumber, hbalances⟩⟩

/-- A complaint may be told if its place can be written and the value that it is about. -/
theorem isWritable_toDetail_iff {Torn : Type} (levels : Nat) (complaint : Complaint)
    (input : Value Torn) :
    (complaint.toDetail input).isWritable (levels + 2) = true ↔
      (∀ i, .index i ∈ complaint.path → Numeral.IsShort i) ∧
        input.isWritable (levels + 1) = true := by
  have hindex : ∀ i : Nat, ((Key.index i).toJson : Value Torn).isWritable levels = true ↔
      Numeral.IsShort i := by
    intro i
    rw [Key.toJson, isWritable_int_iff_isShort, Int.natAbs_natCast]
  have hkeys : (∀ key ∈ complaint.path, (key.toJson : Value Torn).isWritable levels = true) ↔
      ∀ i, .index i ∈ complaint.path → Numeral.IsShort i := by
    constructor
    · intro hall i hmem
      exact (hindex i).1 (hall _ hmem)
    · rintro hall (name | i) hmem
      · exact Value.isWritable_str levels name
      · exact (hindex i).2 (hall i hmem)
  simp only [Complaint.toDetail, Complaint.members, List.cons_append, List.nil_append,
    Value.isWritable_obj_iff, List.forall_mem_cons, List.not_mem_nil, false_implies, implies_true,
    and_true, true_and, Value.isWritable_str, Value.isWritable_arr_iff, List.forall_mem_map, hkeys]

variable (hfw : fw.IsDocumented)
include hfw

/-- Only one place in a list is told with a complaint about an account: that of the account. -/
theorem isShort_of_mem_path_iff {value : RawJson} {complaint : Complaint}
    (hcomplaint : complaint ∈ fw.complaints value) (i : Nat) :
    (∀ j, .index j ∈ (complaint.inBody i).path → Numeral.IsShort j) ↔ Numeral.IsShort i := by
  have hnone : ∀ j, .index j ∉ complaint.path := by
    intro j hmem
    rcases Validation.complaints_in_order hfw.toIsDocumented value with hother | hconcern
    · rw [hother, List.mem_singleton] at hcomplaint
      simp [hcomplaint] at hmem
    · have hpath := hconcern.sublist.subset (List.mem_map_of_mem hcomplaint)
      simp only [List.mem_cons, List.not_mem_nil, or_false] at hpath
      rcases hpath with hpath | hpath | hpath <;> simp [hpath] at hmem
  simp only [Complaint.inBody, List.mem_cons, reduceCtorEq, Key.index.injEq, false_or, hnone, or_false,
    forall_eq]

/-- Bad accounts may be refused if all complaints about them can be told. -/
theorem isWritable_refusals_iff (accounts : List RawJson) :
    (Content.refusal (fw.refusals accounts)).toJson.isWritable (fw.room + 4) = true ↔
      fw.AreRepeatable accounts := by
  simp only [Content.toJson, Content.form, refusals, Value.isWritable_obj_iff, List.forall_mem_cons,
    List.not_mem_nil, false_implies, implies_true, and_true, Value.isWritable_arr_iff,
    List.forall_mem_map, List.forall_mem_flatMap, isWritable_toDetail_iff]
  constructor
  · intro hall place hmem complaint hcomplaint
    obtain ⟨hshort, hwritable⟩ := hall place hmem complaint hcomplaint
    exact ⟨(isShort_of_mem_path_iff hfw hcomplaint place.2).1 hshort, hwritable⟩
  · intro hall place hmem complaint hcomplaint
    obtain ⟨hshort, hwritable⟩ := hall place hmem complaint hcomplaint
    exact ⟨(isShort_of_mem_path_iff hfw hcomplaint place.2).2 hshort, hwritable⟩

/-- A content is sent if it can be written, and there is no reply otherwise. -/
theorem send_cases (status : Nat) (content : Content) :
    (content.toJson.isWritable (fw.room + 4) = true →
      fw.send status content = .ok ⟨status, content⟩) ∧
    (¬ content.toJson.isWritable (fw.room + 4) = true →
      ∃ fault, fw.send status content = .error fault) := by
  rw [← hfw.obstacle?_eq_none_iff, send]
  cases fw.obstacle? content.toJson <;> simp

/-- A response is sent if its numbers can be written, and there is no reply otherwise. -/
theorem respond_cases (submission : Submission) (today : Calendar.Date) :
    ((submission.response today).HasShortNumbers → fw.respond submission today =
      .ok ⟨if (submission.response today).outcome.status = "failed" then 400 else 200,
        .response (submission.response today)⟩) ∧
    (¬ (submission.response today).HasShortNumbers →
      ∃ fault, fw.respond submission today = .error fault) := by
  have hwritable : (Content.response (submission.response today)).toJson.isWritable (fw.room + 4) =
      true ↔ (submission.response today).HasShortNumbers :=
    isWritable_response_iff (fw.room + 1) (submission.response today)
  rw [← hwritable]
  simp only [respond, Outcome.status_eq_failed_iff]
  exact send_cases hfw _ _

/-! ## The service and the answer on the spot -/

omit hfw

/-! ## Requests to the standard framework -/

/-- A request with a body to the place where instructions are posted. -/
def postOf (body : String) : Request :=
  ⟨"POST", "/payment-instructions", body⟩

/-- A request posts what its body is read as. -/
theorem posts_postOf {body : String} {members : List (String × RawJson)} {accounts : List RawJson}
    {instruction : String} (hbody : body.isEmpty = false)
    (htext : Text.sniff body = .ok body.toList)
    (hparse : Json.read some nestingLimit body.toList = .ok (.obj members))
    (haccounts : Value.lookup "accounts" members = some (.arr accounts))
    (hinstruction : Value.lookup "instruction" members = some (.str instruction)) :
    standard.Posts (postOf body) accounts instruction := by
  have hpath : standard.path "/payment-instructions" = .ok "/payment-instructions" := by
    decide +kernel
  have hmethod : Text.upper "POST" = "POST" := by decide +kernel
  have hread : Body.ofText body = .ok (.value (.obj members)) := by
    simp only [Body.ofText, hbody, htext, Body.ofChars, hparse, Bool.false_eq_true, if_false]
  exact ⟨hpath, hmethod, members, hread, haccounts, hinstruction⟩

/-- Accounts of which one covers the transfer; their balances are written as a text and as a truth
value. -/
def twoGoodAccounts : List RawJson :=
  [.obj [("id", .str "a"), ("balance", .str " 1_00 "), ("currency", .str "usd")],
    .obj [("id", .str "b"), ("balance", .bool true), ("currency", .str "usd")]]

/-- A body with these accounts and the transfer. -/
def twoGoodAccountsBody : String :=
  "\x7b\"accounts\":[\x7b\"id\":\"a\",\"balance\":\" 1_00 \",\"currency\":\"usd\"\x7d," ++
    "\x7b\"id\":\"b\",\"balance\":true,\"currency\":\"usd\"\x7d]," ++
    "\"instruction\":\"DEBIT 30 USD FROM ACCOUNT a FOR CREDIT TO ACCOUNT b\"\x7d"

/-- The body posts these accounts. -/
theorem posts_twoGoodAccounts :
    standard.Posts (postOf twoGoodAccountsBody) twoGoodAccounts thirtyDollars := by
  have hparse : Json.read some nestingLimit twoGoodAccountsBody.toList =
      .ok (.obj [("accounts", .arr twoGoodAccounts), ("instruction", .str thirtyDollars)]) := by
    cbv
  exact posts_postOf (by decide +kernel) (by decide +kernel) hparse rfl rfl

/-- Accounts of which one is no object and the other lacks members. -/
def twoBadAccounts : List RawJson :=
  [.int 7, .obj [("id", .int 5)]]

/-- A body with these accounts. -/
def twoBadAccountsBody : String :=
  "\x7b\"accounts\":[7,\x7b\"id\":5\x7d],\"instruction\":\"x\"\x7d"

/-- The body posts these accounts. -/
theorem posts_twoBadAccounts :
    standard.Posts (postOf twoBadAccountsBody) twoBadAccounts "x" := by
  have hparse : Json.read some nestingLimit twoBadAccountsBody.toList =
      .ok (.obj [("accounts", .arr twoBadAccounts), ("instruction", .str "x")]) := by
    cbv
  exact posts_postOf (by decide +kernel) (by decide +kernel) hparse rfl rfl

/-- A body whose only account is a number that is not finite. -/
def infiniteAccountBody : String :=
  "\x7b\"accounts\":[1e999],\"instruction\":\"x\"\x7d"

/-- The body posts this number. -/
theorem posts_infiniteAccount : standard.Posts (postOf infiniteAccountBody) [.infinite false] "x" := by
  have hparse : Json.read some nestingLimit infiniteAccountBody.toList =
      .ok (.obj [("accounts", .arr [.infinite false]), ("instruction", .str "x")]) := by
    cbv
  exact posts_postOf (by decide) (by decide +kernel) hparse rfl rfl

/-- A body whose only account is half of a pair. -/
def tornAccountBody : String :=
  "\x7b\"accounts\":[\"\\ud800\"],\"instruction\":\"x\"\x7d"

/-- The body posts this string, which is no text. -/
theorem posts_tornAccount : standard.Posts (postOf tornAccountBody) [.torn [0xD800]] "x" := by
  have hparse : Json.read some nestingLimit tornAccountBody.toList =
      .ok (.obj [("accounts", .arr [.torn [0xD800]]), ("instruction", .str "x")]) := by
    cbv
  exact posts_postOf (by decide) (by decide +kernel) hparse rfl rfl

end Framework

end FundsTransfer
