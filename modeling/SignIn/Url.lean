import SignIn.Url.Form
import SignIn.Url.Host
import SignIn.Url.Path

namespace SignIn

/-- An absolute URL, as far as it is looked at: user information and the fragment are read and left out. -/
structure Url where
  /-- In lower case. -/
  scheme : List Char
  host : Option Host
  /-- The port, unless it is the one that the scheme stands for. -/
  port : Option Nat
  path : List Char
  query : Option (List Char)
  deriving DecidableEq, Repr

namespace Url

/-- Schemes whose URLs have rules of their own. -/
inductive SchemeKind where
  | special
  | file
  | other
  deriving DecidableEq, Repr

/-- The port that a scheme stands for. -/
def defaultPort? (scheme : List Char) : Option Nat :=
  match String.ofList scheme with
  | "http" | "ws" => some 80
  | "https" | "wss" => some 443
  | "ftp" => some 21
  | _ => none

/-- The kind of a scheme. -/
def SchemeKind.of (scheme : List Char) : SchemeKind :=
  if scheme = ['f', 'i', 'l', 'e'] then .file
  else if (defaultPort? scheme).isSome then .special
  else .other

/-- The port that a URL leads to. -/
def effectivePort (u : Url) : Option Nat :=
  u.port.or (defaultPort? u.scheme)

/-- The text of the host, empty if there is none. -/
def hostText (u : Url) : List Char :=
  (u.host.map Host.text).getD []

/-- The names and values in the query, in order. -/
def queryPairs (u : Url) : List (String × String) :=
  Form.pairs (u.query.getD [])

/-- Leaves out controls and spaces at the ends. -/
def trim (text : List Char) : List Char :=
  let atEnd := fun c : Char => c.toNat ≤ 0x20
  ((text.dropWhile atEnd).reverse.dropWhile atEnd).reverse

/-- Whether a character may stand in a scheme after its first letter. -/
def inScheme (c : Char) : Bool :=
  c.isAlphanum || c == '+' || c == '-' || c == '.'

/-- Takes the scheme off a text. -/
def takeScheme (text : List Char) : Option (List Char × List Char) :=
  match Text.splitFirst ':' text with
  | (before, some rest) =>
    match UrlPath.strip before with
    | c :: name =>
      if c.isAlpha ∧ name.all inScheme then some ((c :: name).map Char.toLower, rest) else none
    | [] => none
  | _ => none

/-- Whether a character ends the authority of a URL. -/
def endsAuthority (special : Bool) (c : Char) : Bool :=
  c == '/' || c == '?' || c == '#' || (special && c == '\\')

/-- Whether a character ends a path. -/
def endsPath (c : Char) : Bool :=
  c == '?' || c == '#'

/-- Takes the user information off an authority. The first part is absent if there is no `@`. -/
def splitUser (authority : List Char) : Option (List Char) × List Char :=
  if authority.contains '@' then
    let host := (authority.reverse.takeWhile (· ≠ '@')).reverse
    (some (authority.take (authority.length - host.length - 1)), host)
  else (none, authority)

/-- The part of an authority before the colon of its port. A colon in brackets is none. -/
def hostPart (bracketed : Bool) : List Char → List Char
  | [] => []
  | c :: rest =>
    if c = ':' ∧ !bracketed then []
    else c :: hostPart (if c = '[' then true else if c = ']' then false else bracketed) rest

/-- Reads a port behind its colon, if there is one, and gives what follows. -/
def readPort (scheme rest : List Char) : Except UrlError (Option Nat × List Char) :=
  match rest with
  | ':' :: rest =>
    let digits := rest.takeWhile Char.isDigit
    let after := rest.dropWhile Char.isDigit
    let port := (Address.numberOf? 10 digits).getD 0
    if 65535 < port then .error .invalidPort
    else if (after.head?.map (endsAuthority true)).getD true then
      .ok (if digits = [] ∨ some port = defaultPort? scheme then none else some port, after)
    else .error .invalidPort
  | rest => .ok (none, rest)

/-- Reads user information, host and port behind two slashes, and gives what follows. -/
def readAuthority (special : Bool) (scheme text : List Char) :
    Except UrlError (Option Host × Option Nat × List Char) := do
  let authority := text.takeWhile (!endsAuthority special ·)
  let after := text.dropWhile (!endsAuthority special ·)
  let (user, hostAndPort) := splitUser authority
  if user = some [] ∧ hostAndPort = [] ∧ after ≠ [] then throw .emptyHost
  let hostText := hostPart false hostAndPort
  let portText := hostAndPort.drop hostText.length
  if special ∧ hostText = [] then throw .emptyHost
  let host ← if special then Host.readSpecial hostText else Host.readPlain hostText
  if hostText = [] ∧ portText ≠ [] then throw .emptyHost
  let (port, rest) ← readPort scheme (portText ++ after)
  -- A lone colon is user information without name and password.
  if hostText = [] ∧ user ≠ none ∧ user ≠ some [] ∧ user ≠ some [':'] then throw .emptyHost
  return (if hostText = [] then none else some host, port, rest)

/-- The query at the front of what follows a path. -/
def readQuery (special : Bool) (text : List Char) : Option (List Char) :=
  match text with
  | '?' :: rest =>
    let set := if special then Percent.inSpecialQuery else Percent.inQuery
    some (Percent.encode set (rest.takeWhile (· ≠ '#')))
  | _ => none

/-- Reads the host of a file behind two slashes, and gives what follows. A drive is no host. Without a
host the path gets a slash of its own. -/
def readFileHost (text : List Char) : Except UrlError (Option Host × List Char) := do
  let hostText := UrlPath.strip (text.takeWhile (!endsAuthority true ·))
  if UrlPath.isDrive hostText then return (none, '/' :: text)
  let after := text.dropWhile (!endsAuthority true ·)
  if hostText = [] then return (none, '/' :: after)
  let host ← Host.readSpecial hostText
  if host = .name "localhost".toList then return (none, '/' :: after) else return (some host, after)

/-- What follows the slash at the front of a text, if there is one. -/
def afterSlash? (text : List Char) : Option (List Char) :=
  match text.dropWhile UrlPath.isLeftOut with
  | c :: rest => if c = '/' ∨ c = '\\' then some rest else none
  | [] => none

/-- Reads a URL of files behind its scheme. A path that begins with a drive has no host before it. -/
def readFile (scheme text : List Char) : Except UrlError Url := do
  let (host, rest) ← match afterSlash? text >>= afterSlash? with
    | some rest => readFileHost rest
    | none => .ok (none, text)
  let pathText := rest.takeWhile (!endsPath ·)
  return {
    scheme
    host := if UrlPath.hasDrive pathText then none else host
    port := none
    path := UrlPath.ofFileText pathText
    query := readQuery true (UrlPath.strip (rest.dropWhile (!endsPath ·))) }

/-- Reads a URL of a special scheme other than files behind its scheme. -/
def readSpecial (scheme text : List Char) : Except UrlError Url := do
  let (host, port, rest) ← readAuthority true scheme
    (text.dropWhile fun c => c == '/' || c == '\\')
  return {
    scheme, host, port
    path := UrlPath.ofText true (rest.takeWhile (!endsPath ·))
    query := readQuery true (rest.dropWhile (!endsPath ·)) }

/-- Reads a URL of any other scheme behind its scheme. Without slashes its path is kept as it stands. -/
def readOther (scheme text : List Char) : Except UrlError Url := do
  match text with
  | '/' :: '/' :: text =>
    let (host, port, rest) ← readAuthority false scheme text
    let pathText := rest.takeWhile (!endsPath ·)
    return {
      scheme, host, port
      path := if pathText = [] then [] else UrlPath.ofText false pathText
      query := readQuery false (rest.dropWhile (!endsPath ·)) }
  | text =>
    let pathText := text.takeWhile (!endsPath ·)
    return {
      scheme
      host := none
      port := none
      path :=
        if pathText.head? = some '/' then UrlPath.ofText false pathText
        else Percent.encode Percent.isControl pathText
      query := readQuery false (text.dropWhile (!endsPath ·)) }

/-- Reads an absolute URL. It may be of any length; a reader that keeps positions in 32 bits would refuse a URL
of 4 GiB or more. -/
def parse (text : String) : Except UrlError Url :=
  match takeScheme (trim text.toList) with
  | none => .error .withoutBase
  | some (scheme, rest) =>
    match SchemeKind.of scheme with
    | .special => readSpecial scheme (UrlPath.strip rest)
    | .file => readFile scheme rest
    | .other => readOther scheme (UrlPath.strip rest)

end Url

end SignIn
