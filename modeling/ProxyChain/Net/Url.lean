import ProxyChain.Net.Host

/-!
# ProxyChain.Net.Url

**Resource addresses** as browsers read them. Reading is forgiving and brings an address into one
form: the scheme and the host are in lower case, a port that the scheme implies is left out,
steps through the path are taken, and characters that do not belong where they stand are encoded.
-/

namespace ProxyChain.Net

/-- The path of a resource address. -/
inductive UrlPath
  /-- Segments, each behind a slash. -/
  | segments (segments : List String)
  /-- A text without segments. -/
  | text (text : String)
  deriving Repr, DecidableEq

/-- A resource address. -/
structure Url where
  scheme : String
  /-- The user, the host and the port, as they are written behind two slashes. -/
  authority : Option String
  path : UrlPath
  query : Option String
  fragment : Option String
  deriving Repr, DecidableEq

namespace UrlPath

/-- The text of a path. -/
def render : UrlPath → String
  | segments names => String.join (names.map ("/" ++ ·))
  | text t => t

/-- The path with a slash at its end. A text may not begin with one, so there the slash is
encoded. -/
def withSlash : UrlPath → UrlPath
  | segments names => if names.getLast? = some "" then segments names else segments (names ++ [""])
  | text t =>
    if t = "" then text "%2F"
    else if t.toList.getLast? = some '/' then text t
    else text (t ++ "/")

end UrlPath

namespace Url

/-- The text of a resource address. -/
def render (url : Url) : String :=
  url.scheme ++ ":" ++ (url.authority.elim "" ("//" ++ ·)) ++ url.path.render ++
    (url.query.elim "" ("?" ++ ·)) ++ (url.fragment.elim "" ("#" ++ ·))

/-! ### Schemes -/

/-- The port that a scheme implies; the schemes that have one are those of the web. -/
def defaultPort? (scheme : String) : Option Nat :=
  [("http", 80), ("https", 443), ("ws", 80), ("wss", 443), ("ftp", 21)].lookup scheme

/-- Whether a scheme is one of those whose addresses always have a host, or that of files. -/
def isSpecial (scheme : String) : Bool :=
  (defaultPort? scheme).isSome || scheme = "file"

/-- Whether a character separates segments. -/
def isSlash (special : Bool) (c : Char) : Bool :=
  c == '/' || (special && c == '\\')

/-- Whether a character may be part of a scheme. -/
def isSchemeChar (c : Char) : Bool :=
  c.isAlphanum || c == '+' || c == '-' || c == '.'

/-- The scheme in front of a colon, and what is behind it. -/
def splitScheme? (cs : List Char) : Option (String × List Char) :=
  let name := cs.takeWhile isSchemeChar
  match name, cs.drop name.length with
  | first :: _, ':' :: rest =>
    if first.isAlpha then some (String.ofList (name.map Char.toLower), rest) else none
  | _, _ => none

/-- A text split in front of the first given character, which is dropped. -/
def splitAt (mark : Char) (cs : List Char) : List Char × Option (List Char) :=
  match cs.dropWhile (· != mark) with
  | _ :: rest => (cs.takeWhile (· != mark), some rest)
  | [] => (cs, none)

/-! ### Authorities -/

/-- The user and what is behind the last at sign. -/
def splitUser (cs : List Char) : Option (List Char) × List Char :=
  match cs.reverse.dropWhile (· != '@') with
  | _ :: user => (some user.reverse, (cs.reverse.takeWhile (· != '@')).reverse)
  | [] => (none, cs)

/-- The text of a user and a password. -/
def userText (cs : List Char) : String :=
  let (name, password) := splitAt ':' cs
  let encode (cs : List Char) := Percent.encode Percent.inUserInfo (String.ofList cs)
  let name := encode name
  let password := (password.filter (!·.isEmpty)).elim "" (":" ++ encode ·)
  if name = "" ∧ password = "" then "" else s!"{name}{password}@"

/-- The host and what is behind the first colon outside of square brackets. -/
def splitPort : (inBrackets : Bool) → List Char → List Char × Option (List Char)
  | _, [] => ([], none)
  | inBrackets, c :: rest =>
    if c == ':' && !inBrackets then ([], some rest)
    else
      let (host, port) := splitPort (if c == '[' then true else if c == ']' then false else inBrackets)
        rest
      (c :: host, port)

/-- The text of a port, which is empty if the scheme implies it. -/
def portText (scheme : String) : Option (List Char) → Except UrlFault String
  | none | some [] => .ok ""
  | some cs =>
    match Text.readDigits? 10 cs with
    | some port =>
      if 65535 < port then .error .invalidPort
      else if defaultPort? scheme = some port then .ok ""
      else .ok s!":{port}"
    | none => .error .invalidPort

/-- Reads the user, the host and the port. -/
def readAuthority (scheme : String) (cs : List Char) : Except UrlFault String := do
  let special := isSpecial scheme
  let (user, rest) := splitUser cs
  let user := user.elim "" userText
  let (host, port) := splitPort false rest
  if host.isEmpty && (special || port.isSome || user ≠ "" || cs.contains '@') then
    .error .emptyHost
  else
    let host ← Host.read special (String.ofList host)
    return user ++ host ++ (← portText scheme port)

/-! ### Paths -/

/-- Whether a segment stands for where it is. -/
def isHere (segment : String) : Bool :=
  [".", "%2e"].contains segment.toLower

/-- Whether a segment stands for one step back. -/
def isBack (segment : String) : Bool :=
  ["..", ".%2e", "%2e.", "%2e%2e"].contains segment.toLower

/-- Takes the steps that segments stand for. A step at the end leads to an empty segment. -/
def takeSteps (done : List String) : List String → List String
  | [] => done
  | segment :: rest =>
    let last := if rest.isEmpty then [""] else []
    if isBack segment then takeSteps (done.dropLast ++ last) rest
    else if isHere segment then takeSteps (done ++ last) rest
    else takeSteps (done ++ [segment]) rest

/-- A text cut at every slash. -/
def cutSegments (special : Bool) (cs : List Char) : List (List Char) :=
  cs.splitOnP (isSlash special)

/-- Reads a path of segments. -/
def readSegments (special : Bool) (cs : List Char) : UrlPath :=
  let cs := match cs with
    | c :: rest => if isSlash special c then rest else c :: rest
    | [] => []
  let encode (cs : List Char) := Percent.encode Percent.inPath (String.ofList cs)
  .segments (takeSteps [] ((cutSegments special cs).map encode))

/-! ### Addresses -/

/-- Reads what is behind the scheme of a web address, or behind two slashes. -/
def readHierarchy (scheme : String) (cs : List Char) : Except UrlFault (Option String × UrlPath) :=
  do
    let special := isSpecial scheme
    let authority ← readAuthority scheme (cs.takeWhile fun c => !isSlash special c)
    let rest := cs.dropWhile fun c => !isSlash special c
    let path := if rest.isEmpty && !special then .segments [] else readSegments special rest
    return (some authority, path)

/-- Reads what is behind the scheme of a file's address. -/
def readFile (cs : List Char) : Except UrlFault (Option String × UrlPath) :=
  match cs with
  | a :: b :: rest =>
    if isSlash true a && isSlash true b then do
      let host := rest.takeWhile fun c => !isSlash true c
      let host ← if host.isEmpty then pure "" else Host.read true (String.ofList host)
      let host := if host = "localhost" then "" else host
      return (some host, readSegments true (rest.dropWhile fun c => !isSlash true c))
    else .ok (some "", readSegments true cs)
  | cs => .ok (some "", readSegments true cs)

/-- Reads what is behind the scheme of any address. -/
def readBody (scheme : String) (cs : List Char) : Except UrlFault (Option String × UrlPath) :=
  if scheme = "file" then readFile cs
  else if (defaultPort? scheme).isSome then readHierarchy scheme (cs.dropWhile (isSlash true))
  else match cs with
    | '/' :: '/' :: rest => readHierarchy scheme rest
    | '/' :: _ => .ok (none, readSegments false cs)
    | cs => .ok (none, .text (Percent.encode Percent.isControl (String.ofList cs)))

/-- Whether a character is dropped at the ends of an address. -/
def isMargin (c : Char) : Bool :=
  c ≤ ' '

/-- Whether a character is dropped inside of an address. -/
def isIgnored (c : Char) : Bool :=
  c == '\t' || c == '\n' || c == '\r'

/-- Reads a resource address. -/
def parse (text : String) : Except UrlFault Url := do
  let cs := ((text.toList.dropWhile isMargin).reverse.dropWhile isMargin).reverse
  match splitScheme? (cs.filter (!isIgnored ·)) with
  | none => .error .noScheme
  | some (scheme, rest) =>
    let (rest, fragment) := splitAt '#' rest
    let (rest, query) := splitAt '?' rest
    let (authority, path) ← readBody scheme rest
    return {
      scheme := scheme
      authority := authority
      path := path
      query := query.map fun cs =>
        Percent.encode (Percent.inQuery (isSpecial scheme)) (String.ofList cs)
      fragment := fragment.map fun cs => Percent.encode Percent.inFragment (String.ofList cs) }

/-- The address with a slash at the end of its path. -/
def withSlash (url : Url) : Url :=
  { url with path := url.path.withSlash }

/-- The address of a name beside the last segment of a path. -/
def sibling (url : Url) (name : String) : Except UrlFault Url :=
  match url.path with
  | .segments names =>
    .ok { url with path := .segments (names.dropLast ++ [name]), query := none, fragment := none }
  | .text _ => .error .pathless

end Url

end ProxyChain.Net
