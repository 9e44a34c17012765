import ExperimentGroups.Json.Token
import ExperimentGroups.Service.Host
import ExperimentGroups.Text.Integer
import ExperimentGroups.Text.Split

/-!
# Addresses

A message is sent to an address, of which the path says what is asked for. A scheme and an authority
may stand in front of it, a query and a fragment behind it. An address without a scheme or a host is
taken from the root of the service. Dot segments are resolved, and then escaped bytes are decoded,
first on the way and again on arrival.

## Main definitions

* `Address`, `Address.read?`: the parts of an address, and the address that a text stands for
* `Address.resolveDots`: the path without dot segments
* `Address.unescape`: the text without escaped bytes
* `Address.Failure`: why a message does not arrive
* `Address.arrive`: the path that the service is asked for
-/

namespace ExperimentGroups

/-- **An address**: its scheme in lower case and its host, both empty if there is none, its port,
unless that is the usual one of the scheme, its path and its query. -/
structure Address where
  scheme : List Char
  host : Host
  port : Option Int
  path : List Char
  query : List Char

namespace Address

/-! ## Parts -/

/-- Whether a character can belong to a scheme. -/
def isSchemeChar (c : Char) : Bool := c.isAlphanum || c == '+' || c == '.' || c == '-'

/-- The scheme of an address, and the rest. A scheme may be empty, and a letter begins any other. -/
def splitScheme (cs : List Char) : List Char × List Char :=
  let scheme := cs.takeWhile isSchemeChar
  match cs.dropWhile isSchemeChar with
  | ':' :: rest => if scheme.head?.all Char.isAlpha then (scheme, rest) else ([], cs)
  | _ => ([], cs)

/-- Whether a character ends an authority. -/
def endsAuthority (c : Char) : Bool := c == '/' || c == '?' || c == '#'

/-- The authority of an address, empty if it has none, and the rest. -/
def splitAuthority : List Char → List Char × List Char
  | '/' :: '/' :: rest =>
    (rest.takeWhile (!endsAuthority ·), rest.dropWhile (!endsAuthority ·))
  | cs => ([], cs)

/-- The path of what follows the authority, and its query. -/
def splitQuery (cs : List Char) : List Char × List Char :=
  let endsPath (c : Char) : Bool := c == '?' || c == '#'
  let query := match cs.dropWhile (!endsPath ·) with
    | '?' :: query => query.takeWhile (· ≠ '#')
    | _ => []
  (cs.takeWhile (!endsPath ·), query)

/-- A text up to the last character of a kind, with that one, and the rest. -/
def splitAfterLast (last : Char) (cs : List Char) : List Char × List Char :=
  ((cs.reverse.dropWhile (· ≠ last)).reverse, (cs.reverse.takeWhile (· ≠ last)).reverse)

/-- The host and the port of an authority without its user. Brackets may be around the host. -/
def splitPort (cs : List Char) : List Char × List Char :=
  let (host, rest) :=
    if cs.head? = some '[' ∧ ']' ∈ cs then splitAfterLast ']' cs
    else (cs.takeWhile (· ≠ ':'), cs.dropWhile (· ≠ ':'))
  (host, if rest.head? = some ':' then rest.drop 1 else rest)

/-- The usual port of a scheme. -/
def usualPort? (scheme : String) : Option Int :=
  match scheme with
  | "ftp" => some 21
  | "http" => some 80
  | "https" => some 443
  | "ws" => some 80
  | "wss" => some 443
  | _ => none

/-- The port that a text stands for, if it is one: none for an empty text and for the usual port. -/
def readPort? (scheme cs : List Char) : Option (Option Int) :=
  if cs = [] then some none
  else (Text.integer? cs).map fun n =>
    if usualPort? (String.ofList scheme) = some n then none else some n

/-! ## Dot segments -/

/-- One segment after the ones that are kept, the last first. -/
def resolveSegment (kept : List (List Char)) (segment : List Char) : List (List Char) :=
  if segment = ['.'] then kept
  else if segment = ['.', '.'] then if kept = [[]] then kept else kept.tail
  else segment :: kept

/-- **A path without dot segments**: one dot is the segment before it, two dots the one before
that. -/
def resolveDots (path : List Char) : List Char :=
  ['/'].intercalate ((Text.split '/' path).foldl resolveSegment []).reverse

/-! ## Escaped bytes -/

/-- The character of an escaped byte; what is not ASCII stands for no character by itself. -/
def byteChar (n : Nat) : Char := if n < 128 then Char.ofNat n else '\uFFFD'

/-- **A text without escaped bytes**; a percent sign without two digits stays. -/
def unescape : List Char → List Char
  | '%' :: a :: b :: rest =>
    match Json.hexDigit? a, Json.hexDigit? b with
    | some m, some n => byteChar (16 * m + n) :: unescape rest
    | _, _ => '%' :: unescape (a :: b :: rest)
  | c :: cs => c :: unescape cs
  | [] => []

/-! ## Addresses -/

/-- The longest address, and the longest path or query of one. -/
def lengthLimit : Nat := 65536

/-- Whether a character may not stand in an address. -/
def isForbidden (c : Char) : Bool := c.toNat < 0x20 || c.toNat == 0x7F

/-- **The address that a text stands for.** A path without an authority does not begin with two
slashes, nor with a colon, unless there is a scheme. -/
def read? (text : String) : Option Address :=
  let (scheme, rest) := splitScheme text.toList
  let (authority, rest) := splitAuthority rest
  let (path, query) := splitQuery rest
  let (user, place) := splitAfterLast '@' authority
  let (hostText, portText) := splitPort place
  if text.toList.any isForbidden || lengthLimit < text.length then none
  else do
    let host ← Host.read? hostText
    let port ← readPort? scheme portText
    let hasUser := 1 < user.length
    if scheme ≠ [] ∨ hasUser ∨ host.isPresent ∨ port.isSome then
      some ⟨Text.lower scheme, host, port, resolveDots path, query⟩
    else if path.take 2 = ['/', '/'] ∨ path.head? = some ':' then none
    else some ⟨[], host, port, path, query⟩

/-- Whether an address names a service by itself. -/
def isAbsolute (a : Address) : Bool := a.scheme != [] && a.host.isPresent

/-! ## Arrival -/

/-- **Why a message does not arrive**: it has no address, the name of the host cannot be read, its
zone cannot be written, the scheme is not served, or the connection would not be one for messages;
or the text after the first colon of the authority is no port. -/
inductive Failure where
  | noAddress
  | badName (fault : Label.Fault)
  | badZone
  | unknownScheme
  | otherConnection
  | noPort (text : List Char)
  deriving DecidableEq

/-- Whether a character of a query is escaped in an address. -/
def isEscapedInQuery (c : Char) : Bool :=
  c == ' ' || c == '"' || c == '#' || c == '<' || c == '>' || 0x7F ≤ c.toNat

/-- Whether a character of a path is escaped in an address. -/
def isEscapedInPath (c : Char) : Bool :=
  isEscapedInQuery c || c == '?' || c == '\x60' || c == '\x7b' || c == '\x7d'

/-- The length of a text in an address; each byte of an escaped character takes three places. -/
def escapedLength (isEscaped : Char → Bool) (cs : List Char) : Nat :=
  cs.foldl (fun n c => n + if isEscaped c then 3 * c.utf8Size else 1) 0

/-- The path of an address that names a service by itself. -/
def absolutePath (a : Address) : Except Failure (List Char) :=
  let scheme := String.ofList a.scheme
  let isServed := scheme = "http" ∨ scheme = "https"
  if isServed ∨ scheme = "ws" ∨ scheme = "wss" then
    match a.host with
    | .long text =>
      let port := match a.port with
        | none => []
        | some n => ':' :: Text.integerChars n
      .error (.noPort ((text.dropWhile (· ≠ ':')).drop 1 ++ ']' :: port))
    | .name _ => if isServed then .ok a.path else .error .otherConnection
  else .error .unknownScheme

/-- The path of an address from the root of the service. -/
def relativePath (a : Address) : Except Failure (List Char) :=
  let path := '/' :: a.path.dropWhile (· == '/')
  if lengthLimit < escapedLength isEscapedInPath path ∨
      lengthLimit < escapedLength isEscapedInQuery a.query then .error .noAddress
  else .ok (resolveDots path)

/-- The path of an address as it is written, without dot segments. -/
def writtenPath (a : Address) : Except Failure (List Char) :=
  if a.isAbsolute then
    match a.host with
    | .name text =>
      match Host.checkName text with
      | .error fault => .error (.badName fault)
      | .ok () => a.absolutePath
    | .long text => if Host.isAscii text then a.absolutePath else .error .badZone
  else a.relativePath

/-- **The path that the service is asked for** by a message to an address. -/
def arrive (text : String) : Except Failure (List Char) :=
  match read? text with
  | none => .error .noAddress
  | some a => a.writtenPath.map fun path => unescape (unescape path)

end Address

end ExperimentGroups
