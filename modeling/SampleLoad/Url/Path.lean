import SampleLoad.Url.Percent

/-!
Paths of URLs, as lists of segments. Segments are taken in one by one: a single dot stands for nothing and
a double dot for the loss of the segment before it, except that a drive letter is never lost.
-/

namespace SampleLoad

/-- The schemes that the URL standard treats alike; all others are opaque to it. -/
inductive SchemeKind where
  | file
  /-- The schemes of the web, which always have a host. -/
  | special
  | other
  deriving DecidableEq, Repr

namespace SchemeKind

def ofScheme (scheme : String) : SchemeKind :=
  if scheme = "file" then file
  else if scheme ∈ ["http", "https", "ws", "wss", "ftp"] then special
  else other

/-- A backslash counts as a slash. -/
def hasBackslash (k : SchemeKind) : Bool := k ≠ other

end SchemeKind

namespace UrlPath

/-- A segment is a double dot, dots possibly encoded. -/
def isDoubleDot (segment : List Char) : Bool :=
  String.ofList (segment.map Char.toLower) ∈ ["..", "%2e%2e", "%2e.", ".%2e"]

/-- A segment is a single dot, possibly encoded. -/
def isSingleDot (segment : List Char) : Bool :=
  String.ofList (segment.map Char.toLower) ∈ [".", "%2e"]

/-- A letter followed by a colon or a bar. -/
def isDriveLetter : List Char → Bool
  | [letter, mark] => letter.isAlpha && (mark = ':' || mark = '|')
  | _ => false

/-- A letter followed by a colon. -/
def isNormalDriveLetter : List Char → Bool
  | [letter, mark] => letter.isAlpha && mark = ':'
  | _ => false

/-- The segments without the last one, unless that is a drive letter. -/
def shorten (segments : List String) : List String :=
  match segments.getLast? with
  | some last => if isDriveLetter last.toList then segments else segments.dropLast
  | none => []

/-- Adds a segment, in its encoded form, behind others. Behind a dot there is an empty segment only if
nothing else follows. -/
def add (kind : SchemeKind) (segments : List String) (segment : List Char) (isLast : Bool) : List String :=
  if isDoubleDot segment then shorten segments ++ (if isLast then [""] else [])
  else if isSingleDot segment then segments ++ (if isLast then [""] else [])
  else if kind = .file && segments = [] then
    match segment with
    | letter :: mark :: rest =>
      if isDriveLetter [letter, mark] && rest = [] then [String.ofList [letter, ':']]
      else if isNormalDriveLetter [letter, mark] then [String.ofList [letter, mark], String.ofList rest]
      else [String.ofList segment]
    | _ => [String.ofList segment]
  else segments ++ [String.ofList segment]

/-- Adds encoded segments in order, the last of which is the end of the path. -/
def addAll (kind : SchemeKind) : List String → List (List Char) → List String
  | segments, [] => segments
  | segments, [last] => add kind segments last true
  | segments, segment :: rest => addAll kind (add kind segments segment false) rest

/-- The path of a file has no empty segments in front. -/
def withoutEmptyStart (kind : SchemeKind) (segments : List String) : List String :=
  if kind = .file then
    match segments.dropWhile (· = "") with
    | [] => [""]
    | segments => segments
  else segments

/-- The path whose segments, split and encoded, are given. -/
def ofSegments (kind : SchemeKind) (segments : List (List Char)) : List String :=
  withoutEmptyStart kind (addAll kind [] segments)

/-- Drops an empty segment at the end, if it is not the only one. -/
def popIfEmpty (path : List String) : List String :=
  if 1 < path.length && path.getLast? = some "" then path.dropLast else path

/-- Adds a segment given as plain text at the end of a path. The texts `.` and `..` add nothing; tabs and
line breaks are left out. An empty segment that is the whole path is replaced. -/
def push (kind : SchemeKind) (path : List String) (segment : String) : List String :=
  if segment = "." || segment = ".." then path
  else
    let kept := segment.toList.filter fun c => c ≠ '\t' && c ≠ '\n' && c ≠ '\r'
    let reserved := if kind = .other then Percent.segment else Percent.specialSegment
    let before := if path = [""] then [] else path
    withoutEmptyStart kind (add kind before (Percent.encode reserved kept) true)

def text (path : List String) : String := String.join (path.map ("/" ++ ·))

end UrlPath

end SampleLoad
