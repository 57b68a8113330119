import SampleLoad.Url.Host
import SampleLoad.Url.Path

/-!
URLs after the URL standard: reading absolute ones, writing them, and adding segments to their paths.
-/

namespace SampleLoad

/-- A URL in its parts, each in the form in which it is written. -/
structure Url where
  scheme : String
  username : String := ""
  password? : Option String := none
  /-- There is no host when nothing stands between the scheme and the path. -/
  host? : Option Host := none
  port? : Option Nat := none
  /-- The segments of the path; none for a URL that is no base for others. -/
  path? : Option (List String)
  /-- What follows the scheme of a URL that is no base for others. -/
  opaquePath : String := ""
  /-- The path is written behind `/.`, so that its empty first segment does not look like a host. -/
  guarded : Bool := false
  query? : Option String := none
  fragment? : Option String := none
  deriving DecidableEq, Repr

namespace Url

def kind (u : Url) : SchemeKind := .ofScheme u.scheme

/-- User name and password with their marks. -/
def userinfoText (u : Url) : String :=
  match u.password? with
  | some password => u.username ++ ":" ++ password ++ "@"
  | none => if u.username = "" then "" else u.username ++ "@"

def authorityText (u : Url) : String :=
  match u.host? with
  | none => ""
  | some host =>
    "//" ++ u.userinfoText ++ host.text ++
      (match u.port? with | some port => ":" ++ toString port | none => "")

def pathText (u : Url) : String :=
  match u.path? with
  | some segments => (if u.guarded then "/." else "") ++ UrlPath.text segments
  | none => u.opaquePath

def queryText (u : Url) : String := match u.query? with | some q => "?" ++ q | none => ""

def fragmentText (u : Url) : String := match u.fragment? with | some f => "#" ++ f | none => ""

/-- The URL as one text. -/
def text (u : Url) : String :=
  u.scheme ++ ":" ++ u.authorityText ++ u.pathText ++ u.queryText ++ u.fragmentText

/-- The port that a scheme implies. -/
def defaultPort? (scheme : String) : Option Nat :=
  if scheme = "http" || scheme = "ws" then some 80
  else if scheme = "https" || scheme = "wss" then some 443
  else if scheme = "ftp" then some 21
  else none

def isSchemeChar (c : Char) : Bool := c.isAlphanum || c = '+' || c = '-' || c = '.'

/-- The scheme before a colon, in lower case, and what follows. -/
def splitScheme? (cs : List Char) : Option (String × List Char) :=
  match cs with
  | [] => none
  | first :: _ =>
    if !first.isAlpha then none
    else match cs.dropWhile isSchemeChar with
      | ':' :: rest => some (String.ofList ((cs.takeWhile isSchemeChar).map Char.toLower), rest)
      | _ => none

/-- Where an authority ends. -/
def endsAuthority (kind : SchemeKind) (c : Char) : Bool :=
  c = '/' || c = '?' || c = '#' || (c = '\\' && kind.hasBackslash)

/-- Splits at the last occurrence of a character. -/
def splitLast? (separator : Char) (cs : List Char) : Option (List Char × List Char) :=
  match splitAll separator cs with
  | [] | [_] => none
  | parts =>
    some ([separator].intercalate parts.dropLast, parts.getLastD [])

/-- User name and password, encoded. A password that is empty does not count. -/
def readUserinfo (cs : List Char) : String × Option String :=
  let name := cs.takeWhile (· ≠ ':')
  let password := (cs.dropWhile (· ≠ ':')).drop 1
  let encode (cs : List Char) : String := String.ofList (Percent.encode Percent.userinfo cs)
  (encode name, if password = [] then none else some (encode password))

/-- Splits a host and port at the colon that stands outside brackets. -/
def splitPort (inBrackets : Bool) : List Char → List Char × Option (List Char)
  | [] => ([], none)
  | c :: rest =>
    if c = ':' && !inBrackets then ([], some rest)
    else
      let (host, port) := splitPort (if c = '[' then true else if c = ']' then false else inBrackets) rest
      (c :: host, port)

/-- A port, unless it is left empty or implied by the scheme. -/
def readPort (scheme : String) (cs : List Char) : Except UrlError (Option Nat) :=
  match readDigits cs with
  | none => .error .invalidPort
  | some port => .ok (if cs = [] || some port = defaultPort? scheme then none else some port)
where
  readDigits (cs : List Char) : Option Nat :=
    cs.foldlM (fun n c =>
      if c.isDigit && n * 10 + (c.toNat - 48) ≤ 65535 then some (n * 10 + (c.toNat - 48)) else none) 0

/-- Splits a text before the first character of a class. -/
def splitBefore (stops : Char → Bool) (cs : List Char) : List Char × List Char :=
  (cs.takeWhile (!stops ·), cs.dropWhile (!stops ·))

/-- Splits a path at its slashes. -/
def splitSegments (kind : SchemeKind) (cs : List Char) : List (List Char) :=
  splitAll '/' (if kind.hasBackslash then cs.map fun c => if c = '\\' then '/' else c else cs)

/-- Path segments, each encoded. -/
def encodedSegments (kind : SchemeKind) (cs : List Char) : List (List Char) :=
  (splitSegments kind cs).map (Percent.encode Percent.path)

/-- Reads query and fragment, which follow everything else. -/
def withTail (u : Url) (tail : List Char) : Url :=
  let (query, fragment) := splitBefore (· = '#') tail
  let reserved := if u.kind = .other then Percent.query else Percent.specialQuery
  { u with
    query? := match query with
      | '?' :: query => some (.ofList (Percent.encode reserved query))
      | _ => none
    fragment? := match fragment with
      | '#' :: fragment => some (.ofList (Percent.encode Percent.fragment fragment))
      | _ => none }

/-- The path after an authority: that of a web URL has at least one segment. -/
def authorityPath (kind : SchemeKind) (cs : List Char) : List String :=
  match cs with
  | [] => if kind = .other then [] else [""]
  | c :: rest =>
    if c = '/' || (c = '\\' && kind.hasBackslash) then UrlPath.ofSegments kind (encodedSegments kind rest)
    else UrlPath.ofSegments kind (encodedSegments kind cs)

/-- Reads what follows the two slashes before an authority. -/
def readAuthority (scheme : String) (cs : List Char) : Except UrlError Url := do
  let kind := SchemeKind.ofScheme scheme
  let (authority, afterAuthority) := splitBefore (endsAuthority kind) cs
  let (userinfo, hostAndPort) := match splitLast? '@' authority with
    | some (userinfo, hostAndPort) => (userinfo, hostAndPort)
    | none => ([], authority)
  if hostAndPort = [] && authority = ['@'] && afterAuthority ≠ [] then throw .emptyHost
  let (username, password?) := readUserinfo userinfo
  let (hostText, portText?) := splitPort false hostAndPort
  let (portText?, afterPort) := match portText? with
    | none => (none, [])
    | some text => let (port, rest) := splitBefore (· = '\\') text; (some port, rest)
  if kind = .special && hostText = [] then throw .emptyHost
  let host ← if kind = .special then Host.parseSpecial hostText else Host.parseOpaque hostText
  if hostText = [] && (portText?.isSome || username ≠ "" || password?.isSome) then throw .emptyHost
  let port? ← match portText? with
    | none => pure none
    | some text => readPort scheme text
  let (path, tail) := splitBefore (fun c => c = '?' || c = '#') (afterPort ++ afterAuthority)
  let u : Url := { scheme, username, password?, host? := some host, port?, path? := some (authorityPath kind path) }
  return u.withTail tail

/-- Reads what follows the scheme of a URL that is neither of the web nor a file. -/
def readOther (scheme : String) (cs : List Char) : Except UrlError Url :=
  match cs with
  | '/' :: '/' :: rest => readAuthority scheme rest
  | '/' :: rest =>
    let (path, tail) := splitBefore (fun c => c = '?' || c = '#') rest
    let segments := UrlPath.ofSegments .other (encodedSegments .other path)
    let u : Url :=
      { scheme, path? := some segments, guarded := 1 < segments.length && segments.head? = some "" }
    .ok (u.withTail tail)
  | cs =>
    let (path, tail) := splitBefore (fun c => c = '?' || c = '#') cs
    let u : Url :=
      { scheme, path? := none, opaquePath := .ofList (Percent.encode Percent.control path) }
    .ok (u.withTail tail)

/-- A file on a host. Under a drive letter the host is dropped. -/
def fileOn (host : Host) (afterHost : List Char) : Url :=
  let (path, tail) := splitBefore (fun c => c = '?' || c = '#') afterHost
  let segments := authorityPath .file path
  let host := if UrlPath.isNormalDriveLetter (segments.headD "").toList then .name "" else host
  let u : Url := { scheme := "file", host? := some host, path? := some segments }
  u.withTail tail

/-- Reads what follows the scheme of a file. -/
def readFile (cs : List Char) : Except UrlError Url := do
  let isSlash (c : Char) : Bool := c = '/' || c = '\\'
  match cs with
  | a :: b :: rest =>
    if isSlash a && isSlash b then
      let (hostText, afterHost) := splitBefore (endsAuthority .file) rest
      if hostText = [] || UrlPath.isDriveLetter hostText then return fileOn (.name "") rest
      let host ← Host.parseSpecial hostText
      return fileOn (if host = .name "localhost" then .name "" else host) afterHost
    else return fileOn (.name "") cs
  | cs => return fileOn (.name "") cs

/-- Characters that are dropped around a URL. -/
def isOuter (c : Char) : Bool := c.toNat ≤ 0x20

/-- Reads an absolute URL. Blanks and control characters around it are dropped, and tabs and line breaks
everywhere. -/
def parse (s : String) : Except UrlError Url :=
  let trimmed := ((s.toList.dropWhile isOuter).reverse.dropWhile isOuter).reverse
  let cs := trimmed.filter fun c => c ≠ '\t' && c ≠ '\n' && c ≠ '\r'
  match splitScheme? cs with
  | none => .error .relativeWithoutBase
  | some (scheme, rest) =>
    match SchemeKind.ofScheme scheme with
    | .file => readFile rest
    | .special => readAuthority scheme (rest.dropWhile fun c => c = '/' || c = '\\')
    | .other => readOther scheme rest

/-- Adds segments at the end of the path, in place of an empty last one. A URL that is no base has no
path to add to. -/
def extend? (u : Url) (segments : List String) : Option Url :=
  u.path?.map fun path =>
    { u with path? := some (segments.foldl (UrlPath.push u.kind) (UrlPath.popIfEmpty path)) }

/-- The URL with its password, if it has one, replaced. -/
def withPassword (u : Url) (password : String) : Url :=
  { u with password? := u.password?.map fun _ => password }

end Url

end SampleLoad
