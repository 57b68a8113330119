import SampleLoad.Number.Reader
import SampleLoad.Yaml.Token

/-!
Anchors, tags and directives as they are written. A tag is a handle and an ending, or the whole tag in angle
brackets; bytes may be written as a percent sign and two digits if they make up characters. A directive
stands on a line of its own: it states the version, or what a handle stands for.
-/

namespace SampleLoad.Yaml

/-- Characters of tags. Those of flows are admitted only where the tag is enclosed or ends the line. -/
def isTagChar (admitsFlow : Bool) (c : Char) : Bool :=
  isNameChar c || c ∈ [';', '/', '?', ':', '@', '&', '=', '+', '$', '.', '!', '~', '*', '\'', '(', ')'] ||
    (admitsFlow && (c = ',' || c = '[' || c = ']'))

/-- The number of bytes of a character, by its first one. -/
def encodedWidth? (first : Nat) : Option Nat :=
  if first < 0x80 then some 1
  else if 0xC0 ≤ first && first < 0xE0 then some 2
  else if 0xE0 ≤ first && first < 0xF0 then some 3
  else if 0xF0 ≤ first && first < 0xF8 then some 4
  else none

/-- Reads the characters of a tag. `due` more bytes are needed for a character that is begun; `count`
characters have been read, and their bytes are in reverse. -/
def readTagChars (admitsFlow : Bool) (due count : Nat) (seen : Tag) : List Char → Option (Tag × Nat)
  | '%' :: a :: b :: rest =>
    match hexDigitValue? a, hexDigitValue? b with
    | some high, some low =>
      let byte := high * 16 + low
      if due = 0 then
        match encodedWidth? byte with
        | some width => readTagChars admitsFlow (width - 1) (count + 3) (.ofNat byte :: seen) rest
        | none => none
      else if 0x80 ≤ byte && byte < 0xC0 then
        readTagChars admitsFlow (due - 1) (count + 3) (.ofNat byte :: seen) rest
      else none
    | _, _ => none
  | c :: rest =>
    if c = '%' || 0 < due then none
    else if isTagChar admitsFlow c then
      readTagChars admitsFlow 0 (count + 1) (String.utf8EncodeChar c ++ seen) rest
    else some (seen.reverse, count)
  | [] => if due = 0 then some (seen.reverse, count) else none

/-- The characters of a tag that come next, and the place behind them. -/
def tagChars? (admitsFlow : Bool) (c : Cursor) : Option (Tag × Cursor) :=
  (readTagChars admitsFlow 0 0 [] c.rest).map fun (tag, count) => (tag, c.forward count)

/-- The same, but at least one. -/
def someTagChars? (admitsFlow : Bool) (c : Cursor) : Option (Tag × Cursor) := do
  let (tag, after) ← tagChars? admitsFlow c
  if after.column = c.column then none else some (tag, after)

/-- A text between exclamation marks, of which the first comes next; the second may be missing. -/
def handleChars (c : Cursor) : List Char × Bool × Cursor :=
  let (name, c) := (c.forward 1).span isNameChar
  match c.rest with
  | '!' :: _ => ('!' :: name ++ ['!'], true, c.forward 1)
  | _ => ('!' :: name, false, c)

/-- Reads the tag that starts at a place with its exclamation mark. A lone one stands for itself. -/
def scanTag? (inFlow : Bool) (c : Cursor) : Option (Token × Cursor) := do
  let (token, c) ← match c.rest with
    | '!' :: '<' :: _ => do
      let (ending, c) ← someTagChars? true (c.forward 2)
      match c.rest with
      | '>' :: _ => some (Token.tag "" ending, c.forward 1)
      | _ => none
    | _ => do
      let (handle, isClosed, after) := handleChars c
      if isClosed then
        let (ending, c) ← someTagChars? false after
        some (Token.tag (.ofList handle) ending, c)
      else
        let (more, c) ← tagChars? false after
        let ending := Tag.ofText (.ofList (handle.drop 1)) ++ more
        some (if ending.isEmpty then Token.tag "" (.ofText "!") else Token.tag "!" ending, c)
  if atSpacing c.rest || (inFlow && c.rest.head? = some ',') then some (token, c) else none

/-- The name of the anchor or alias that starts at a place with its indicator. -/
def scanAnchorName? (c : Cursor) : Option (String × Cursor) :=
  let (name, c) := (c.forward 1).span isNameChar
  let ends := atSpacing c.rest || c.rest.head?.any (· ∈ ['?', ':', ',', ']', '\x7d', '%', '@', '\x60'])
  if name.isEmpty || !ends then none else some (.ofList name, c)

/-- A number in a version, of at most nine digits. -/
def scanVersionNumber? (c : Cursor) : Option (Nat × Cursor) :=
  let (digits, c) := c.span Char.isDigit
  if digits.isEmpty || 9 < digits.length then none
  else (readNat wordLimit digits).toOption.map fun n => (n, c)

/-- What the directive of a name says, behind its name. -/
def scanDirectiveValue? (name : List Char) (c : Cursor) : Option (Token × Cursor) :=
  if name = "YAML".toList then do
    let (major, c) ← scanVersionNumber? (c.skip isSpacing)
    match c.rest with
    | '.' :: _ => do
      let (minor, c) ← scanVersionNumber? (c.forward 1)
      some (.versionDirective major minor, c)
    | _ => none
  else if name = "TAG".toList then do
    let start := c.skip isSpacing
    if start.rest.head? ≠ some '!' then none
    let (handle, isClosed, c) := handleChars start
    if !isClosed && handle ≠ ['!'] then none
    if !c.rest.head?.any isSpacing then none
    let (tag, c) ← someTagChars? true (c.skip isSpacing)
    if atSpacing c.rest then some (.tagDirective (.ofList handle) tag, c) else none
  else none

/-- Reads the directive that starts at a place with its percent sign, up to the next line. -/
def scanDirective? (c : Cursor) : Option (Token × Cursor) := do
  let (name, c) := (c.forward 1).span isNameChar
  if name.isEmpty || !atSpacing c.rest then none
  let (token, c) ← scanDirectiveValue? name c
  some (token, ← c.endLine?)

end SampleLoad.Yaml
