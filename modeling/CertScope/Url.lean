import CertScope.Url.Host

/-!
# URLs

A URL is read the way browsers read one: blanks around it and line breaks in it
are dropped, the scheme and the name of the host are brought into lower case,
the port that the scheme has anyway is left out, and a path is resolved. Its
text is the normal form under which it is fetched.
-/

namespace CertScope

/-- Where a URL's server is, and as whom to ask it. -/
structure Authority where
  user : String
  password : String
  host : Host
  /-- The port, if it is not the usual one. -/
  port : Option Nat
  deriving DecidableEq, Repr

/-- A URL, with all parts encoded. -/
structure Url where
  scheme : String
  authority : Option Authority
  path : String
  query : Option String
  fragment : Option String
  deriving DecidableEq, Repr

def Authority.text (authority : Authority) : String :=
  let user :=
    if authority.user.isEmpty && authority.password.isEmpty then ""
    else
      authority.user ++
        (if authority.password.isEmpty then "" else ":" ++ authority.password) ++ "@"
  let port := match authority.port with
    | some port => ":" ++ toString port
    | none => ""
  user ++ authority.host.text ++ port

namespace Url

def queryText (url : Url) : String := (url.query.map ("?" ++ ·)).getD ""

def fragmentText (url : Url) : String := (url.fragment.map ("#" ++ ·)).getD ""

/-- A URL in its normal form. Without a server, a path that begins with two
slashes has a dot put in front, lest it be read as one. -/
def text (url : Url) : String :=
  let place := match url.authority with
    | some authority => "//" ++ authority.text
    | none => if url.path.startsWith "//" then "/." else ""
  url.scheme ++ ":" ++ place ++ url.path ++ url.queryText ++ url.fragmentText

/-! ## Schemes -/

inductive Kind where
  /-- There is a server, and a backslash is a slash. -/
  | special
  /-- The same, but the server may be missing. -/
  | file
  | plain
  deriving DecidableEq, Repr

def Kind.ofScheme (scheme : String) : Kind :=
  if ["http", "https", "ws", "wss", "ftp"].contains scheme then .special
  else if scheme = "file" then .file
  else .plain

/-- Whether a backslash is a slash. -/
def Kind.isSpecial : Kind → Bool
  | plain => false
  | _ => true

def defaultPort? (scheme : String) : Option Nat :=
  if scheme = "http" ∨ scheme = "ws" then some 80
  else if scheme = "https" ∨ scheme = "wss" then some 443
  else if scheme = "ftp" then some 21
  else none

def isSchemeChar (char : Char) : Bool :=
  char.isAlphanum || char == '+' || char == '-' || char == '.'

/-- A text without blanks and controls around it and without the line breaks and
tabs in it. -/
def cleaned (text : String) : List Char :=
  let isBlank (char : Char) : Bool := char.toNat ≤ 0x20
  let trimmed := ((text.toList.dropWhile isBlank).reverse.dropWhile isBlank).reverse
  trimmed.filter fun char => char != '\t' && char != '\n' && char != '\x0d'

def splitScheme? (text : List Char) : Option (String × List Char) :=
  match text, text.dropWhile isSchemeChar with
  | first :: _, ':' :: rest =>
      if first.isAlpha then
        some (String.ofList ((text.takeWhile isSchemeChar).map Char.toLower), rest)
      else none
  | _, _ => none

/-! ## Servers -/

def endsAuthority (kind : Kind) (char : Char) : Bool :=
  char == '/' || char == '?' || char == '#' || (kind.isSpecial && char == '\\')

/-- Cut off the user: what stands in front of the last at sign. -/
def splitUser (kind : Kind) (text : List Char) : Option (List Char) × List Char :=
  let place := text.takeWhile (!endsAuthority kind ·)
  if place.contains '@' then
    let host := (place.reverse.takeWhile (· != '@')).reverse
    (some (place.take (place.length - host.length - 1)),
      host ++ text.dropWhile (!endsAuthority kind ·))
  else (none, text)

/-- Cut off the host: it ends at a colon outside brackets. -/
def splitHost (kind : Kind) (inBrackets : Bool) : List Char → List Char × List Char
  | [] => ([], [])
  | char :: rest =>
      if endsAuthority kind char || (char == ':' && !inBrackets) then ([], char :: rest)
      else
        let inside := char == '[' || (inBrackets && char != ']')
        let (host, after) := splitHost kind inside rest
        (char :: host, after)

def readHost (kind : Kind) (text : List Char) : Except UrlError Host :=
  match kind with
  | .plain => Host.readPlain text
  | _ => if text.isEmpty then .error .emptyHost else Host.readSpecial text

def endsPort (char : Char) : Bool := char == '/' || char == '\\' || char == '?' || char == '#'

/-- Read a port behind its colon; the usual one is none. -/
def readPort (scheme : String) (text : List Char) : Except UrlError (Option Nat × List Char) :=
  let digits := text.takeWhile Char.isDigit
  let rest := text.dropWhile Char.isDigit
  let port := Host.numeral 10 digits
  if 65535 < port || !(rest.head?.all endsPort) then .error .badPort
  else .ok (if digits.isEmpty || defaultPort? scheme = some port then none else some port, rest)

def readAuthority (scheme : String) (text : List Char) :
    Except UrlError (Authority × List Char) := do
  let kind := Kind.ofScheme scheme
  let (userinfo, afterUser) := splitUser kind text
  if userinfo = some [] && afterUser.head?.any (endsAuthority kind) then throw .emptyHost
  let userinfo := userinfo.getD []
  let user := Percent.encode Percent.inUser (userinfo.takeWhile (· != ':'))
  let password := Percent.encode Percent.inUser ((userinfo.dropWhile (· != ':')).drop 1)
  let (hostText, afterHost) := splitHost kind false afterUser
  let host ← readHost kind hostText
  let hasColon := afterHost.head? = some ':'
  if host = .name "" && hasColon then throw .emptyHost
  let (port, rest) ←
    if hasColon then readPort scheme afterHost.tail else pure (none, afterHost)
  if host = .name "" && !(user.isEmpty && password.isEmpty) then throw .emptyHost
  return (⟨user, password, host, port⟩, rest)

/-! ## Paths -/

/-- Whether a segment begins with a drive: a letter with a colon or a bar, and
then nothing or a backslash. -/
def isDrive (segment : String) : Bool :=
  match segment.toList with
  | letter :: mark :: rest =>
      letter.isAlpha && (mark == ':' || mark == '|') && rest.head?.all (· == '\\')
  | _ => false

def isSingleDot (segment : String) : Bool := [".", "%2e", "%2E"].contains segment

def isDoubleDot (segment : String) : Bool :=
  ["..", "%2e.", "%2E.", ".%2e", ".%2E", "%2e%2e", "%2e%2E", "%2E%2e", "%2E%2E"].contains segment

/-- Go up from the segments, of which the last comes first. There is no way up
from a drive. -/
def goUp : List String → List String
  | last :: above => if isDrive last then last :: above else above
  | [] => []

/-- Follow segments, given those so far, the last first. Dots at the end leave an
empty segment. -/
def follow (sofar : List String) : List String → List String
  | [] => sofar
  | segment :: rest =>
      let close (segments : List String) : List String :=
        if rest.isEmpty then "" :: segments else segments
      if isDoubleDot segment then follow (close (goUp sofar)) rest
      else if isSingleDot segment then follow (close sofar) rest
      else follow (segment :: sofar) rest

def segments (kind : Kind) (text : List Char) : List String :=
  let text := if kind.isSpecial then text.map fun char => if char == '\\' then '/' else char
    else text
  (text.splitOn '/').map (Percent.encode Percent.inPath)

/-- A resolved path. Its first slash is not part of `text`. -/
def resolve (kind : Kind) (text : List Char) : String :=
  String.join ((follow [] (segments kind text)).reverse.map ("/" ++ ·))

def readPath (kind : Kind) (text : List Char) : String :=
  match text with
  | '/' :: rest => resolve kind rest
  | '\\' :: rest => resolve kind (if kind.isSpecial then rest else text)
  | [] => if kind.isSpecial then "/" else ""
  | _ => resolve kind text

/-- The path of a URL without a server. One that does not begin with a slash is
taken as it is. -/
def readOwnPath (text : List Char) : String :=
  match text with
  | '/' :: rest => resolve .plain rest
  | _ => Percent.encode Percent.inControl text

/-! ## Reading -/

def isDriveLetter (text : List Char) : Bool :=
  text.length = 2 && isDrive (String.ofList text)

def nowhere : Authority := ⟨"", "", .name "", none⟩

/-- Read the place of a file. A host follows two slashes, and neither a drive nor
the own machine is one. -/
def readFilePlace (text : List Char) : Except UrlError (Authority × List Char) :=
  let isSlash (char : Char) : Bool := char == '/' || char == '\\'
  match text with
  | first :: second :: rest =>
      if isSlash first && isSlash second then
        let place := rest.takeWhile (!endsAuthority .file ·)
        if place.isEmpty || isDriveLetter place then .ok (nowhere, rest)
        else do
          let host ← Host.readSpecial place
          let authority := if host = .name "localhost" then nowhere else { nowhere with host }
          return (authority, rest.drop place.length)
      else .ok (nowhere, text)
  | _ => .ok (nowhere, text)

def readPlace (scheme : String) (text : List Char) :
    Except UrlError (Option Authority × List Char) :=
  let found (place : Authority × List Char) : Option Authority × List Char :=
    (some place.1, place.2)
  match Kind.ofScheme scheme, text with
  | .special, _ =>
      (readAuthority scheme (text.dropWhile fun char => char == '/' || char == '\\')).map found
  | .file, _ => (readFilePlace text).map found
  | .plain, '/' :: '/' :: rest => (readAuthority scheme rest).map found
  | .plain, _ => .ok (none, text)

def splitSuffix (text : List Char) : List Char × Option (List Char) × Option (List Char) :=
  let front := text.takeWhile (· != '#')
  (front.takeWhile (· != '?'), (front.dropWhile (· != '?')).tail?,
    (text.dropWhile (· != '#')).tail?)

def parse (text : String) : Except UrlError Url :=
  match splitScheme? (cleaned text) with
  | none => .error .noScheme
  | some (scheme, rest) => do
      let kind := Kind.ofScheme scheme
      let (authority, rest) ← readPlace scheme rest
      let (path, query, fragment) := splitSuffix rest
      return {
        scheme, authority
        path := if authority.isSome then readPath kind path else readOwnPath path
        query := query.map (Percent.encode (Percent.inQuery kind.isSpecial))
        fragment := fragment.map (Percent.encode Percent.inFragment) }

end Url

end CertScope
