import Mender.Decimal.Numeral
import Mender.Host.Address
import Mender.Host.Label
import Mender.Host.LowerCase
import Mender.Path
import Mender.Text.EncodeError
import Mender.Text.Quoted
import Mender.Text.Utf8

/-!
# Addresses

The address of a request (`Url`) in its normal form: scheme and host in lower case,
the wide characters of the host in plain ones, no number behind the host where the scheme
implies it, no `.` and `..` among the names of the path, and every character
percent-encoded that may not stand where it stands. An address without scheme or host can
be read as a path from the root (`Url.rooted`).
-/

namespace Mender.Assistant

open Text

/-- Why a text is no address. -/
inductive UrlError
  | tooLong
  | unprintable (c : Char) (position : Nat)
  /-- A host that looks like four numbers and is not. -/
  | badQuad (host : List Char)
  /-- A host in brackets that is no number in groups. -/
  | badGroups (host : List Char)
  /-- A host with wide characters that is no host name. -/
  | badName (host : List Char)
  /-- What stands behind the host is no number. -/
  | badNumber (text : List Char)
  /-- A host is followed by a path that does not start with a slash. -/
  | unrootedPath
  | doubledSlash
  | leadingColon
  deriving DecidableEq, Repr

/-- The text of an error. -/
def UrlError.message : UrlError → String
  | .tooLong => "URL too long"
  | .unprintable c position =>
    "Invalid non-printable ASCII character in URL, " ++ String.ofList (quoted [c])
      ++ " at position " ++ toString position ++ "."
  | .badQuad host => "Invalid IPv4 address: " ++ String.ofList (quoted host)
  | .badGroups host => "Invalid IPv6 address: " ++ String.ofList (quoted host)
  | .badName host => "Invalid IDNA hostname: " ++ String.ofList (quoted host)
  | .badNumber text => "Invalid port: " ++ String.ofList (quoted text)
  | .unrootedPath => "For absolute URLs, path must be empty or begin with '/'"
  | .doubledSlash => "Relative URLs cannot have a path starting with '//'"
  | .leadingColon => "Relative URLs cannot have a path starting with ':'"

/-- An address. -/
structure Url where
  scheme : List Char
  /-- The name and the password in front of the host. -/
  user : List Char
  host : List Char
  /-- The number behind the host. -/
  number : Option Int
  path : List Char
  query : Option (List Char)
  fragment : Option (List Char)
  deriving DecidableEq, Repr

namespace Url

/-! ## Characters -/

/-- A character that may stand anywhere. -/
def isUnreserved (c : Char) : Bool := c.isAlphanum || "-._~".toList.contains c

/-- A printable character below U+007F other than the space and the ones given. -/
def isSafeBut (others : String) (c : Char) : Bool :=
  0x20 < c.toNat && c.toNat < 0x7f && !others.toList.contains c

/-- A hexadecimal digit in upper case. -/
def upperHex (n : Nat) : Char := (hexDigit n).toUpper

/-- The text with every character percent-encoded that is not safe. -/
def percentEncode (isSafe : Char → Bool) (s : List Char) : List Char :=
  s.flatMap fun c =>
    if isUnreserved c || isSafe c then [c]
    else
      (Utf8.encodeChar c).flatMap fun b => ['%', upperHex (b.toNat / 16), upperHex (b.toNat % 16)]

/-- A character that may stand in the name and the password. -/
def isUserSafe : Char → Bool := isSafeBut "\"#<>?\x60\x7b\x7d/;=@[]\\^|"

/-- A character that may stand in a host. -/
def isHostSafe (c : Char) : Bool := "!$&'()*+,;=\"\x60\x7b\x7d%|\\".toList.contains c

/-- A character that may stand in a path. -/
def isPathSafe : Char → Bool := isSafeBut "\"#<>?\x60\x7b\x7d"

/-- A character that may stand in a query. -/
def isQuerySafe : Char → Bool := isSafeBut "\"#<>"

/-- A character that may stand in a fragment. -/
def isFragmentSafe : Char → Bool := isSafeBut "\"<>\x60"

/-- The value of a hexadecimal digit. -/
def hexValue? (c : Char) : Option Nat :=
  if c.isDigit then some (c.toNat - 48)
  else if 'a' ≤ c.toLower ∧ c.toLower ≤ 'f' then some (c.toLower.toNat - 87)
  else none

/-- The bytes of a text in which bytes are percent-encoded. -/
def percentBytes : (skip : Nat) → List Char → Bytes
  | _, [] => []
  | skip + 1, _ :: s => percentBytes skip s
  | 0, c :: s =>
    match (if c = '%' then s.head?.bind hexValue? else none), (s.drop 1).head?.bind hexValue? with
    | some a, some b => UInt8.ofNat (16 * a + b) :: percentBytes 2 s
    | _, _ => Utf8.encodeChar c ++ percentBytes 0 s

/-- The text whose percent-encoded form is given. -/
def percentDecode (s : List Char) : List Char := Utf8.decodeLossy (percentBytes 0 s)

/-! ## Parts -/

/-- A character of a scheme behind its first letter. -/
def isSchemeChar (c : Char) : Bool := c.isAlphanum || c == '+' || c == '.' || c == '-'

/-- The scheme in front of a colon, and what follows it. -/
def splitScheme (s : List Char) : List Char × List Char :=
  match s.span isSchemeChar with
  | (scheme, ':' :: r) => if scheme.head?.all Char.isAlpha then (scheme, r) else ([], s)
  | _ => ([], s)

/-- The authority behind two slashes, and what follows it. -/
def splitAuthority : List Char → List Char × List Char
  | '/' :: '/' :: s => s.span fun c => c != '/' && c != '?' && c != '#'
  | s => ([], s)

/-- The text up to a mark, and what follows the mark, if it is there. -/
def splitAt (mark : Char) (s : List Char) : List Char × Option (List Char) :=
  match s.span (· ≠ mark) with
  | (a, _ :: b) => (a, some b)
  | (a, []) => (a, none)

/-- The user in front of the last at sign, and what follows it. -/
def splitUser (s : List Char) : List Char × List Char :=
  match splitAt '@' s.reverse with
  | (host, some user) => (user.reverse, host.reverse)
  | (_, none) => ([], s)

/-- The host, which may stand in square brackets, and the number behind it. -/
def splitNumber (s : List Char) : List Char × List Char :=
  let bracketed := s.head? == some '[' && s.contains ']'
  let (host, r) :=
    if bracketed then
      let behind := s.reverse.takeWhile (· ≠ ']')
      (s.take (s.length - behind.length), behind.reverse)
    else s.span (· ≠ ':')
  match r with
  | ':' :: number => (host, number)
  | number => (host, number)

/-- The normal form of a host; that of a number in brackets lacks the brackets. -/
def normalHost (host : List Char) : Except UrlError (List Char) :=
  if Host.looksLikeQuad host then
    if Host.isQuad host then .ok host else .error (.badQuad host)
  else if host.head? = some '[' ∧ host.getLast? = some ']' then
    let groups := (host.drop 1).dropLast
    if Host.isGroups groups then .ok groups else .error (.badGroups host)
  else if host.any isWide then
    match Host.plainName? (Host.lowered host) with
    | some name => .ok name
    | none => .error (.badName host)
  else .ok (percentEncode isHostSafe (host.map Char.toLower))

/-- The number that a scheme implies. -/
def impliedNumber (scheme : List Char) : Option Int :=
  [("ftp", 21), ("http", 80), ("https", 443), ("ws", 80), ("wss", 443)].lookup
    (String.ofList scheme)

/-- The number that a text writes, unless the scheme implies it. -/
def normalNumber (scheme text : List Char) : Except UrlError (Option Int) :=
  if text = [] then .ok none
  else
    match Numeral.integer text with
    | .error _ => .error (.badNumber text)
    | .ok n => .ok (if impliedNumber scheme = some n then none else some n)

/-- The names of a path without `.`, and with the name before it taken away by
    every `..`; the root stays. -/
def withoutDots (names : List Name) : List Name :=
  names.foldl (fun out n =>
    if n = ['.'] then out
    else if n = ['.', '.'] then (if out = [[]] then out else out.dropLast)
    else out ++ [n]) []

/-- The normal form of a path. -/
def normalPath (path : List Char) : List Char :=
  let names := fields '/' path
  if names.any fun n => n == ['.'] || n == ['.', '.'] then joined ['/'] (withoutDots names)
  else path

/-- What is wrong with a path, given whether there is a scheme and a host. -/
def pathError? (hasScheme hasAuthority : Bool) (path : List Char) : Option UrlError :=
  if hasAuthority then
    if path ≠ [] ∧ path.head? ≠ some '/' then some .unrootedPath else none
  else if hasScheme then none
  else if ['/', '/'].isPrefixOf path then some .doubledSlash
  else if path.head? = some ':' then some .leadingColon
  else none

/-! ## Reading -/

/-- The longest address. -/
def maxLength : Nat := 65536

/-- A control character below U+0080. -/
def isControl (c : Char) : Bool := c.toNat < 0x20 || c.toNat == 0x7f

/-- The address that a text without control characters writes. -/
def ofPlain (s : List Char) : Except UrlError Url := do
  let (scheme, r) := splitScheme s
  let (authority, r) := splitAuthority r
  -- A question mark behind the first `#` belongs to the fragment.
  let (r, fragment) := splitAt '#' r
  let (path, query) := splitAt '?' r
  let (user, r) := splitUser authority
  let (host, number) := splitNumber r
  let host ← normalHost host
  let number ← normalNumber scheme number
  let hasScheme := scheme ≠ []
  let hasAuthority := user ≠ [] ∨ host ≠ [] ∨ number.isSome
  match pathError? hasScheme hasAuthority path with
  | some e => .error e
  | none =>
    .ok {
      scheme := scheme.map Char.toLower
      user := percentEncode isUserSafe user
      host := host
      number := number
      path := percentEncode isPathSafe (if hasScheme ∨ hasAuthority then normalPath path else path)
      query := query.map (percentEncode isQuerySafe)
      fragment := fragment.map (percentEncode isFragmentSafe) }

/-- The address that a text writes. -/
def ofText (s : List Char) : Except UrlError Url :=
  if maxLength < s.length then .error .tooLong
  else
    match s.findIdx? isControl with
    | some i => .error (.unprintable (s.getD i ' ') i)
    | none => ofPlain s

/-- An address with a scheme and a host. -/
def isAbsolute (u : Url) : Bool := u.scheme != [] && u.host != []

/-- The address as a path from the root, unless it is absolute. -/
def rooted (u : Url) : Url :=
  if u.isAbsolute then u
  else ⟨[], [], [], none, '/' :: u.path.dropWhile (· == '/'), u.query, none⟩

/-! ## Writing -/

/-- The host with the number behind it. -/
def hostText (u : Url) : List Char :=
  (if u.host.contains ':' then '[' :: u.host ++ [']'] else u.host)
    ++ (match u.number with
      | none => []
      | some n => ':' :: (toString n).toList)

/-- The host with the user in front of it and the number behind it. -/
def authorityText (u : Url) : List Char :=
  (if u.user = [] then [] else u.user ++ ['@']) ++ u.hostText

/-- The name and the password of the user, if there is either. -/
def credentials? (u : Url) : Option (List Char × List Char) :=
  let (name, password) := splitAt ':' u.user
  let name := percentDecode name
  let password := percentDecode (password.getD [])
  if name = [] ∧ password = [] then none else some (name, password)

/-- The text of an address. -/
def text (u : Url) : String :=
  let authority := u.authorityText
  String.ofList <|
    (if u.scheme = [] then [] else u.scheme ++ [':'])
      ++ (if authority = [] then [] else '/' :: '/' :: authority)
      ++ u.path
      ++ (match u.query with
        | none => []
        | some q => '?' :: q)
      ++ (match u.fragment with
        | none => []
        | some f => '#' :: f)

end Url

end Mender.Assistant
