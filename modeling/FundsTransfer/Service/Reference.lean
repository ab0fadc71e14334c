import FundsTransfer.Numeral.Decimal
import FundsTransfer.Text.Quoted

/-!
# References

A request names what it is for by a reference: a path, perhaps with a scheme and an authority in
front of it and a query or a fragment after it.  A reference with both a scheme and a host is
complete and names its path outright.  In front of any other the root of the service is understood.

Main definitions:

- `Authority`: who is asked, with a host and a port.
- `Reference`: a reference without its query and its fragment.
- `Reference.Defect`: what keeps a text from being a reference.
- `Reference.ofText`: the reference that a text is.
- `resolveDots`: a path with its dot segments resolved.
- `Reference.target`: the path that is asked for.
-/

namespace FundsTransfer

/-! ## Parts of a reference -/

/-- Who is asked, and by whom; each part may be empty. -/
structure Authority where
  user : String
  host : String
  port : String
deriving DecidableEq, Repr

/-- A reference without its query and its fragment; each part may be empty. -/
structure Reference where
  scheme : String
  authority : Authority
  path : String
deriving DecidableEq, Repr

/-- A scheme goes on with these characters. -/
def isSchemeChar (c : Char) : Bool :=
  c.isAlphanum || c == '+' || c == '.' || c == '-'

/-- The scheme in front of a text, and what follows its colon.  A scheme starts with a letter, or
there is nothing but the colon. -/
def splitScheme (text : List Char) : List Char × List Char :=
  let scheme := text.takeWhile isSchemeChar
  match text.dropWhile isSchemeChar with
  | ':' :: rest => if scheme.head?.all Char.isAlpha then (scheme, rest) else ([], text)
  | _ => ([], text)

/-- The authority in front of a text, and what follows it.  Two slashes introduce an authority, and
it ends at the next one. -/
def splitAuthority : List Char → List Char × List Char
  | '/' :: '/' :: rest => (rest.takeWhile (· != '/'), rest.dropWhile (· != '/'))
  | text => ([], text)

/-- Parts a text after the last of a character, which stays with the first part. -/
def splitAfterLast (c : Char) (text : List Char) : List Char × List Char :=
  ((text.reverse.dropWhile (· != c)).reverse, (text.reverse.takeWhile (· != c)).reverse)

/-- The host in front of a text, and what follows it.  A host in brackets may hold colons, any other
ends at the first one. -/
def splitHost (text : List Char) : List Char × List Char :=
  if text.head? == some '[' && text.contains ']' then splitAfterLast ']' text
  else (text.takeWhile (· != ':'), text.dropWhile (· != ':'))

namespace Authority

/-- Takes an authority apart: the user stands before the last `@`, the port after the host. -/
def ofText (text : List Char) : Authority :=
  let (user, place) := splitAfterLast '@' text
  let (host, port) := splitHost place
  { user := String.ofList user.dropLast
    host := String.ofList host
    port := String.ofList (if port.head? == some ':' then port.tail else port) }

/-- Nobody is named. -/
def isEmpty (authority : Authority) : Bool :=
  authority.user.isEmpty && authority.host.isEmpty && authority.port.isEmpty

end Authority

namespace Reference

/-- Takes a reference apart. -/
def split (text : List Char) : Reference :=
  let (scheme, rest) := splitScheme (text.takeWhile fun c => c != '?' && c != '#')
  let (authority, path) := splitAuthority rest
  { scheme := String.ofList (scheme.map Char.toLower)
    authority := Authority.ofText authority
    path := String.ofList path }

/-- The reference has neither a scheme nor an authority. -/
def isBare (reference : Reference) : Bool :=
  reference.scheme.isEmpty && reference.authority.isEmpty

/-- The reference says by itself where it leads. -/
def isComplete (reference : Reference) : Bool :=
  !reference.scheme.isEmpty && !reference.authority.host.isEmpty

/-! ## Defects -/

/-- What keeps a text from being a reference. -/
inductive Defect where
  /-- The text has more than `lengthLimit` characters. -/
  | tooLong
  /-- A control character stands at this position. -/
  | control (c : Char) (position : Nat)
  /-- The port is no number. -/
  | badPort (port : String)
  /-- The path of a bare reference starts like an authority. -/
  | startsWithSlashes
  /-- The path of a bare reference starts like an empty scheme. -/
  | startsWithColon
deriving DecidableEq, Repr

/-- The wording of a defect. -/
def Defect.message : Defect → String
  | tooLong => "URL too long"
  | control c position => "Invalid non-printable ASCII character in URL, " ++
      Text.quoted (String.singleton c) ++ " at position " ++ toString position ++ "."
  | badPort port => "Invalid port: " ++ Text.quoted port
  | startsWithSlashes => "Relative URLs cannot have a path starting with '//'"
  | startsWithColon => "Relative URLs cannot have a path starting with ':'"

/-- A reference may have at most this many characters. -/
def lengthLimit : Nat := 65536

/-- The control characters of ASCII. -/
def isControl (c : Char) : Bool :=
  c.toNat < 0x20 || c.toNat == 0x7F

/-- What is wrong with a reference that has been taken apart. -/
def defect? (reference : Reference) : Option Defect :=
  let port := reference.authority.port
  if !port.isEmpty && (Numeral.figures? port.toList).isNone then some (.badPort port)
  else if reference.isBare then
    match reference.path.toList with
    | '/' :: '/' :: _ => some .startsWithSlashes
    | ':' :: _ => some .startsWithColon
    | _ => none
  else none

/-- The reference that a text is. -/
def ofText (text : String) : Except Defect Reference :=
  let characters := text.toList
  if lengthLimit < characters.length then .error .tooLong
  else
    match characters.find? isControl with
    | some c => .error (.control c (characters.findIdx isControl))
    | none =>
      let reference := split characters
      match reference.defect? with
      | some defect => .error defect
      | none => .ok reference

end Reference

/-! ## Paths -/

/-- One more segment of a path, where `before` are the segments so far, the last one first.  A dot
is passed over, and two dots take a segment back, but never the root. -/
def resolveSegment (before : List String) (segment : String) : List String :=
  if segment = "." then before
  else if segment = ".." then
    if before.length ≤ 1 ∧ before.head? = some "" then before else before.tail
  else segment :: before

/-- A path with its dot segments resolved. -/
def resolveDots (path : String) : String :=
  let segments := (path.toList.splitOn '/').map String.ofList
  "/".intercalate (segments.foldl resolveSegment []).reverse

/-- A path that starts at the root, whatever slashes stand in front. -/
def fromRoot (path : String) : String :=
  String.ofList ('/' :: path.toList.dropWhile (· == '/'))

/-- The path that is asked for.  Dot segments are resolved behind a scheme or an authority and once
more from the root of the service, so that slashes between them do not count. -/
def Reference.target (reference : Reference) : String :=
  let path := if reference.isBare then reference.path else resolveDots reference.path
  if reference.isComplete then path else resolveDots (fromRoot path)

end FundsTransfer
