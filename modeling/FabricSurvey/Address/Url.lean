import FabricSurvey.Address.Domain
import FabricSurvey.Address.Socket
import FabricSurvey.Address.Url.Path

/-!
# URLs as they are sent

A URL is read into its parts and written in one form: the scheme in lower case, the host as it is
looked up, no port where it is the usual one of the scheme, no dot segments in the path, and every
byte that may not stand in a part of it encoded. Schemes with a usual port always have a host, and so
do files, though it may be empty; other schemes may have a host, a path alone, or a text without any
structure.

A host is an IPv6 address in brackets, an IPv4 address, or a name. Where names are looked up, a name is
a domain, which may be written with percent signs, and one whose last label is a number is an IPv4
address or nothing. Where they are not, any name without the characters that end a host will do.
-/

namespace FabricSurvey

open Text

inductive Host where
  /-- A name of ASCII characters, which may be empty where names are not looked up. -/
  | named (name : List Char)
  | ip (address : IPAddress)
  deriving DecidableEq, Repr

namespace Host

def labels (domain : List Char) : List (List Char) :=
  let parts := splitAll (· == '.') domain
  if parts.getLast? = some [] then parts.dropLast else parts

/-- A label that is a number: hexadecimal after a zero and an x, octal after any other leading zero,
decimal otherwise. -/
def labelNumber? (label : List Char) : Option Nat :=
  let whole? (base : Nat) (text : List Char) : Option Nat :=
    match takeDigits base text with
    | (digits, []) => some (ofDigits base digits)
    | _ => none
  match label with
  | [] => none
  | '0' :: 'x' :: text => whole? 16 text
  | '0' :: d :: text => whole? 8 (d :: text)
  | text => whole? 10 text

/-- A domain whose last label is a number has to be an IPv4 address. -/
def endsInNumber (domain : List Char) : Bool :=
  match (labels domain).getLast? with
  | some label => (!label.isEmpty && label.all Char.isDigit) || (labelNumber? label).isSome
  | none => false

/-- The IPv4 address of a domain of up to four numbers, of which the last one fills all octets that
the others leave. -/
def numericAddress? (domain : List Char) : Option IPv4 := do
  let numbers ← (labels domain).mapM labelNumber?
  let last ← numbers.getLast?
  let front := numbers.dropLast
  let room := Nat.pow 256 (4 - front.length)
  if front.length < 4 && front.all (· < 256) && last < room then
    return IPv4.ofNat (ofDigits 256 front * room + last)
  else none

def bracketed? (text : List Char) : Option Host := do
  let (literal, after) ← splitLast? ']' text
  match after, IPv6.take? literal with
  | [], some (address, []) => return .ip (.v6 address)
  | _, _ => none

/-- The host of a URL whose names are looked up. -/
def parse? (text : List Char) : Option Host :=
  match text with
  | '[' :: text => bracketed? text
  | _ => do
    let domain ← Domain.ascii? (← percentDecode? text)
    if domain.isEmpty then none
    else if endsInNumber domain then (numericAddress? domain).map fun address => .ip (.v4 address)
    else return .named domain

def isForbidden (c : Char) : Bool := "\x00\t\n\r #/:<>?@[\\]^|".toList.contains c

def parseOpaque? (text : List Char) : Option Host :=
  match text with
  | '[' :: text => bracketed? text
  | _ => if text.any isForbidden then none else some (.named (percentEncode "" text))

def chars : Host → List Char
  | .named name => name
  | .ip (.v4 address) => address.chars
  | .ip (.v6 address) => '[' :: address.groupChars ++ [']']

end Host

/-- A name and a password, in the form in which they stand in a URL. Both may be empty. -/
structure Credentials where
  name : List Char
  password : List Char
  deriving DecidableEq, Repr

structure Url where
  scheme : List Char
  credentials : Credentials := ⟨[], []⟩
  /-- Absent where no authority is written. -/
  host : Option Host
  /-- Absent where it is the usual port of the scheme. -/
  port : Option Nat := none
  path : List Char
  query : Option (List Char)
  fragment : Option (List Char)
  deriving DecidableEq, Repr

namespace Credentials

def chars (credentials : Credentials) : List Char :=
  let password := if credentials.password.isEmpty then [] else ':' :: credentials.password
  if credentials.name.isEmpty && password.isEmpty then []
  else credentials.name ++ password ++ ['@']

/-- Whether credentials can be told apart from a URL: the name is a text, and where it is empty the
password is one. -/
def isText (credentials : Credentials) : Bool :=
  (percentDecode? credentials.name).isSome &&
    (!credentials.name.isEmpty || (percentDecode? credentials.password).isSome)

end Credentials

namespace Url

/-- The usual ports of the schemes whose URLs always have a host. -/
def usualPort? (scheme : List Char) : Option Nat :=
  if scheme = "http".toList ∨ scheme = "ws".toList then some 80
  else if scheme = "https".toList ∨ scheme = "wss".toList then some 443
  else if scheme = "ftp".toList then some 21
  else none

def fileScheme : List Char := "file".toList

/-- Whether the hosts of a scheme are looked up. A backslash in its URLs is a slash. -/
def looksUp (scheme : List Char) : Bool := (usualPort? scheme).isSome || scheme == fileScheme

def isSchemeChar (c : Char) : Bool := c.isAlphanum || c == '+' || c == '-' || c == '.'

def takeScheme? (text : List Char) : Option (List Char × List Char) := do
  let (scheme, rest) ← splitFirst? ':' text
  match withoutBreaks scheme with
  | [] => none
  | first :: more =>
    if first.isAlpha && more.all isSchemeChar then return ((first :: more).map Char.toLower, rest)
    else none

def endsAuthority (scheme : List Char) (c : Char) : Bool :=
  c == '/' || c == '?' || c == '#' || (looksUp scheme && c == '\\')

def credentialReserved : String := pathReserved ++ "/:;=@[\\]^|"

/-- The credentials in front of a text, which end with its last at-sign. Nothing but a host may follow
an at-sign that comes first. -/
def takeCredentials? (scheme text : List Char) : Option (Credentials × List Char) :=
  let inAuthority (c : Char) : Bool := !endsAuthority scheme c
  let after := text.dropWhile inAuthority
  match splitLast? '@' (text.takeWhile inAuthority) with
  | none => some (⟨[], []⟩, text)
  | some ([], []) => if after.isEmpty then some (⟨[], []⟩, []) else none
  | some (userinfo, rest) =>
    let (name, password) := (splitFirst? ':' userinfo).getD (userinfo, [])
    some (⟨percentEncode credentialReserved name, percentEncode credentialReserved password⟩,
      rest ++ after)

/-- The text of the host in front of a text. A colon between brackets belongs to it. -/
def takeHost (scheme : List Char) (inBrackets : Bool) : List Char → List Char × List Char
  | [] => ([], [])
  | c :: text =>
    if endsAuthority scheme c || (c == ':' && !inBrackets) then ([], c :: text)
    else
      let (host, rest) := takeHost scheme (c == '[' || (inBrackets && c != ']')) text
      (c :: host, rest)

/-- The port in front of a text, if there is one other than the usual one. Only the end of the
authority may follow its digits. -/
def takePort? (scheme : List Char) : List Char → Option (Option Nat × List Char)
  | ':' :: text =>
    let (digits, rest) := takeDigits 10 text
    let port := ofDigits 10 digits
    if max16 < port || rest.head?.any (!"/\\?#".toList.contains ·) then none
    else if digits.isEmpty || usualPort? scheme == some port then some (none, rest)
    else some (some port, rest)
  | text => some (none, text)

def cutAt (separator : Char) (text : List Char) : List Char × Option (List Char) :=
  match splitFirst? separator text with
  | some (before, after) => (before, some after)
  | none => (text, none)

def queryReserved (scheme : List Char) : String :=
  if looksUp scheme then " \"#<>'" else " \"#<>"

def fragmentReserved : String := " \"<>`"

/-- The URL that is left when its text has been read up to the path. A function says which URL the
path makes, a question mark comes before the query and a number sign before the fragment. -/
def complete (text : List Char) (ofPath : List Char → Url) : Url :=
  let (text, fragment) := cutAt '#' text
  let (text, query) := cutAt '?' text
  let url := ofPath text
  { url with
    query := query.map fun query => percentEncode (queryReserved url.scheme) (withoutBreaks query)
    fragment := fragment.map fun fragment =>
      percentEncode fragmentReserved (withoutBreaks fragment) }

def plain (scheme : List Char) (host : Option Host) (path : List Char) : Url :=
  { scheme, host, path, query := none, fragment := none }

def withAuthority? (scheme text : List Char) : Option Url := do
  let (credentials, text) ← takeCredentials? scheme text
  let (name, text) := takeHost scheme false text
  let host ← if looksUp scheme then Host.parse? name else Host.parseOpaque? name
  if name.isEmpty && (text.head? == some ':' || !credentials.chars.isEmpty) then none
  else
    let (port, text) ← takePort? scheme text
    return complete text fun path =>
      let path := if looksUp scheme then (Path.of isSlash path).chars
        else if path.isEmpty then []
        else (Path.of (· == '/') path).chars
      { plain scheme (some host) path with credentials, port }

/-- The URL of a scheme without an authority: a path, or a text without any structure. -/
def withoutAuthority (scheme text : List Char) : Url :=
  complete text fun path => plain scheme none <|
    if text.head? == some '/' then (Path.of (· == '/') path).chars else percentEncode "" path

def ofFile (host : Host) (text : List Char) : Url :=
  complete text fun text =>
    let path := Path.ofFile text
    plain fileScheme (some (if path.onDrive then .named [] else host)) path.fileChars

/-- The URL of a file whose host is in front of a text, unless a drive is. Only after a host the slash
in front of the path is left out. -/
def fileWithHost? (text : List Char) : Option Url :=
  let inHost (c : Char) : Bool := !endsAuthority fileScheme c
  let name := withoutBreaks (text.takeWhile inHost)
  let rest := text.dropWhile inHost
  if isDrive name then some (ofFile (.named []) text)
  else if name.isEmpty then some (ofFile (.named []) rest)
  else do
    let host ← Host.parse? name
    return if host = .named "localhost".toList then ofFile (.named []) rest
      else ofFile host ((takeSlash? rest).getD rest)

/-- The URL of a file that a text spells after the scheme. Two slashes come before a host. -/
def file? (text : List Char) : Option Url :=
  match takeSlash? text with
  | none => some (ofFile (.named []) text)
  | some text =>
    match takeSlash? text with
    | none => some (ofFile (.named []) text)
    | some text => fileWithHost? text

/-- A text without the blanks and controls around it. -/
def trimmed (text : List Char) : List Char :=
  let blank (c : Char) : Bool := c.toNat ≤ 0x20
  ((text.dropWhile blank).reverse.dropWhile blank).reverse

/-- The URL that a text spells. -/
def parse? (text : List Char) : Option Url := do
  let (scheme, rest) ← takeScheme? (trimmed text)
  if scheme = fileScheme then file? rest
  else
    let rest := withoutBreaks rest
    if (usualPort? scheme).isSome then withAuthority? scheme (rest.dropWhile isSlash)
    else match rest with
      | '/' :: '/' :: text => withAuthority? scheme text
      | _ => return withoutAuthority scheme rest

/-- What is asked of the host: the path and the query. -/
def target (url : Url) : List Char :=
  url.path ++ match url.query with
    | some query => '?' :: query
    | none => []

/-- The host and the port as they stand in a URL. -/
def location (url : Url) : List Char :=
  url.host.elim [] Host.chars ++ match url.port with
    | some port => ':' :: decimal port
    | none => []

/-- The text between scheme and path. Without an authority, a path with an empty first segment is kept
from being read as one. -/
def authorityChars (url : Url) : List Char :=
  if url.host.isSome then '/' :: '/' :: url.credentials.chars ++ url.location
  else if "//".toList.isPrefixOf url.path then "/.".toList
  else []

def chars (url : Url) : List Char :=
  url.scheme ++ ':' :: url.authorityChars ++ url.target ++
    match url.fragment with
      | some fragment => '#' :: fragment
      | none => []

def isHttp (url : Url) : Bool := url.scheme == "http".toList || url.scheme == "https".toList

def dialledPort (url : Url) : Nat := (url.port.or (usualPort? url.scheme)).getD 0

/-- A URL without credentials that can be told apart from it. -/
def withoutCredentials (url : Url) : Url :=
  if url.credentials.isText then { url with credentials := ⟨[], []⟩ } else url

end Url

end FabricSurvey
