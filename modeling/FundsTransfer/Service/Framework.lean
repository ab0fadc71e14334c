import FundsTransfer.Account.Validation
import FundsTransfer.Fault
import FundsTransfer.Json.Printer
import FundsTransfer.Json.Reader
import FundsTransfer.Text.Encoding

/-!
# What the service is built on

The service leaves it to a framework to find the path that a reference asks for, to read the body of a
request, to check values and to write the content of a reply.  The framework is a parameter of the
service, so that what is proved of the service rests on no more than what its framework is documented
to do.  In the standard framework a path is decoded once by its sender and once by its receiver, so
`/%2568ealth` is `/health`.

Main definitions:

- `Body`: what the body of a request is read as.
- `Framework`: the parts of a service that do not depend on what it serves.
- `pathOf`: the path that the text of a reference asks for.
- `Body.ofText`: the reading of a body.
- `Value.obstacle?`: what keeps a value from being written.
- `Framework.standard`: the framework made of these, with the standard validation.

Main results:

- Theorem `Value.obstacle?_eq_none_iff`: a value without an obstacle is one that can be written.

Current gaps:

- How deeply a body may be nested depends on the state of the receiver; `nestingLimit` is an estimate.
- A body in a wide encoding that holds half of a pair as it stands, and not in an escape, is not read
  further.
-/

namespace FundsTransfer

/-- What the body of a request is read as. -/
inductive Body where
  /-- There is no body. -/
  | absent
  /-- The body is not read at all. -/
  | unreadable
  /-- The body is no JSON from this character on. -/
  | broken (position : Nat)
  | value (value : RawJson)

/-- What a service is built on. -/
structure Framework extends Validation (List Nat) where
  /-- The path that a reference asks for. -/
  path : String → Except Fault String
  read : String → Except Fault Body
  /-- What keeps the content of a reply from being written. -/
  obstacle? : RawJson → Option Fault
  /-- How many more lists and objects may be inside one another in a reply than its own four. -/
  room : Nat

/-! ## Paths -/

/-- The character of a byte; a byte beyond ASCII is no character of its own and is replaced. -/
def charOfByte (byte : Nat) : Char :=
  if byte < 0x80 then Char.ofNat byte else '\uFFFD'

/-- A path in which every percent sign with two hexadecimal digits is resolved. -/
def percentDecode : List Char → List Char
  | '%' :: a :: b :: rest =>
    match Text.hexValue? a, Text.hexValue? b with
    | some high, some low => charOfByte (16 * high + low) :: percentDecode rest
    | _, _ => '%' :: percentDecode (a :: b :: rest)
  | c :: rest => c :: percentDecode rest
  | [] => []

/-- A complete reference has one of these schemes. -/
def isServedScheme (scheme : String) : Bool :=
  scheme == "http" || scheme == "https"

/-- The path that the text of a reference asks for. -/
def pathOf (text : String) : Except Fault String :=
  match Reference.ofText text with
  | .error defect => .error (.badReference defect)
  | .ok reference =>
    if reference.isComplete && !isServedScheme reference.scheme then
      .error (.unknownScheme reference.scheme)
    else .ok (String.ofList (percentDecode (percentDecode reference.target.toList)))

/-! ## Bodies -/

/-- A body may have about this many lists and objects inside one another: three hundred are read, three
thousand are not. -/
def nestingLimit : Nat := 960

/-- The reading of the characters of a body. -/
def Body.ofChars (text : List Char) : Body :=
  match Json.read some nestingLimit text with
  | .ok found => .value found
  | .error (.unexpected position) => .broken position
  | .error _ => .unreadable

/-- The reading of a body; an empty one is as good as none. -/
def Body.ofText (text : String) : Except Fault Body :=
  if text.isEmpty then .ok .absent
  else
    match Text.sniff text with
    | .ok text => .ok (.ofChars text)
    | .error .malformed => .ok .unreadable
    | .error .torn => .error .tornText

/-! ## Replies -/

/-- What keeps a value from being written, if at most `levels` lists and objects may be inside one
another. -/
def Value.obstacle? (levels : Nat) (value : RawJson) : Option Fault :=
  if !value.isNestedWithin levels then some .nestedTooDeeply
  else if !value.isFinite then some .notFinite
  else if !value.hasShortIntegers Numeral.digitLimit then some .unwritableInteger
  else if !value.isWhole then some .tornText
  else none

/-- A value without an obstacle is one that can be written. -/
theorem Value.obstacle?_eq_none_iff {levels : Nat} {value : RawJson} :
    value.obstacle? levels = none ↔ value.isWritable levels = true := by
  unfold Value.obstacle? Value.isWritable
  cases value.isNestedWithin levels <;> cases value.isFinite <;>
    cases value.hasShortIntegers Numeral.digitLimit <;> cases value.isWhole <;> simp

/-- The framework that requests are sent to.  All that is read can be repeated, however deeply it is
nested. -/
def Framework.standard : Framework where
  toValidation := .standard
  path := pathOf
  read := Body.ofText
  obstacle? := Value.obstacle? (nestingLimit + 4)
  room := nestingLimit

end FundsTransfer
