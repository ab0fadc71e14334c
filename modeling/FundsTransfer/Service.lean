import FundsTransfer.Answer
import FundsTransfer.Service.Framework

/-!
# The service over HTTP

Instructions are posted as a JSON object with the accounts and the instruction.  A request that
does not have this form is refused with all complaints about it, each with the value that it is about.
There is no reply if its content cannot be written.

Main definitions:

- `Request`: what is sent.
- `Content`, `Reply`: what is answered.
- `Route`: the paths that are served.
- `Framework.submission`: the form of a posted request.
- `Framework.handle`, `handle`: the reply to a request.
-/

namespace FundsTransfer

/-! ## Requests and replies -/

/-- A request.  An empty body is as good as none. -/
structure Request where
  method : String
  reference : String
  body : String

/-- What a reply says. -/
inductive Content where
  /-- The service is there. -/
  | health
  | response (response : Response)
  /-- A word of explanation. -/
  | notice (detail : String)
  /-- What is wrong with a request: complaints and the values that they are about. -/
  | refusal (complaints : List (Complaint × RawJson))

/-- A content as JSON, with a form for each complaint and its value. -/
def Content.form {Torn : Type} (item : Complaint → RawJson → Value Torn) : Content → Value Torn
  | health => .obj [("status", .str "ok")]
  | response done => done.toJson
  | notice detail => .obj [("detail", .str detail)]
  | refusal complaints =>
    .obj [("detail", .arr (complaints.map fun (complaint, input) => item complaint input))]

/-- A content as it is written. -/
def Content.toJson (content : Content) : RawJson :=
  content.form Complaint.toDetail

/-- The reply to a request. -/
structure Reply where
  status : Nat
  content : Content

/-- The content of a reply but for the values that complaints are about. -/
def Reply.body (reply : Reply) : Json :=
  reply.content.form fun complaint _ => complaint.toJson

/-- The paths that are served. -/
inductive Route where
  | health
  | instructions
deriving DecidableEq, Repr

/-- The route of a path. -/
def Route.ofPath? : String → Option Route
  | "/health" => some health
  | "/payment-instructions" => some instructions
  | _ => none

/-- An instruction and the accounts that it is about. -/
structure Submission where
  accounts : List Account
  instruction : String
deriving DecidableEq, Repr

/-- The response to a submission. -/
def Submission.response (submission : Submission) (today : Calendar.Date) : Response :=
  (answerText submission.accounts today submission.instruction).response

/-- The members of a submission. -/
def Validation.submissionFields {Torn : Type} (v : Validation Torn) : Fields Torn Submission :=
  ((Fields.of Submission.mk).and "accounts" (v.list (v.account .notObject))).and "instruction" v.text

/-- Checks the form of a submission. -/
def Validation.submission {Torn : Type} (v : Validation Torn) (value : Value Torn) :
    Checked Submission :=
  v.model .notObject v.submissionFields value

/-! ## Handling a request -/

namespace Framework

variable (fw : Framework)

/-- The reply with the given content, if that can be written. -/
def send (status : Nat) (content : Content) : Except Fault Reply :=
  match fw.obstacle? content.toJson with
  | none => .ok ⟨status, content⟩
  | some fault => .error fault

/-- The reply to a request with complaints. -/
def refuse (complaints : List (Complaint × RawJson)) : Except Fault Reply :=
  fw.send 400 (.refusal complaints)

/-- The reply to a submission: the response, marked as a bad request if it is a rejection. -/
def respond (submission : Submission) (today : Calendar.Date) : Except Fault Reply :=
  let response := submission.response today
  fw.send (if response.outcome.isRejected then 400 else 200) (.response response)

/-- The reply to a posted value. -/
def postValue (value : RawJson) (today : Calendar.Date) : Except Fault Reply :=
  match fw.submission value with
  | .ok submission => fw.respond submission today
  | .error complaints =>
    fw.refuse (complaints.map fun complaint =>
      (complaint.under (.name "body"), complaint.subject value))

/-- The reply to what a posted body is read as. -/
def post (today : Calendar.Date) : Body → Except Fault Reply
  | .absent => fw.refuse [(⟨[.name "body"], .missing⟩, .null)]
  | .unreadable => fw.send 400 (.notice "There was an error parsing the body")
  | .broken position => fw.refuse [(⟨[.name "body", .index position], .brokenJson⟩, .obj [])]
  | .value value => fw.postValue value today

/-- The reply at a route; methods are told apart without regard to letter case. -/
def reply (route : Route) (request : Request) (today : Calendar.Date) : Except Fault Reply :=
  match route, Text.upper request.method with
  | .health, "GET" => fw.send 200 .health
  | .instructions, "POST" => do fw.post today (← fw.read request.body)
  | _, _ => fw.send 405 (.notice "Method Not Allowed")

/-- The reply to a request. -/
def handle (request : Request) (today : Calendar.Date) : Except Fault Reply := do
  match Route.ofPath? (← fw.path request.reference) with
  | some route => fw.reply route request today
  | none => fw.send 404 (.notice "Not Found")

end Framework

/-- The reply to a request in the standard framework. -/
def handle (request : Request) (today : Calendar.Date) : Except Fault Reply :=
  Framework.standard.handle request today

end FundsTransfer
