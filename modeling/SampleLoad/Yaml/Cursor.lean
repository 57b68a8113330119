/-!
The text of a YAML document, and places in it. A document may hold printable characters, tabs and line
ends only. Line ends in whatever form are one line feed; the line and paragraph separators end a line too,
but stay what they are. A cursor is what is left of the text, with the line and column where it starts.
-/

namespace SampleLoad.Yaml

/-- Characters that a document may hold. -/
def isAllowed (c : Char) : Bool :=
  let n := c.toNat
  n = 0x09 || n = 0x0A || n = 0x0D || (0x20 ≤ n && n ≤ 0x7E) || n = 0x85 || (0xA0 ≤ n && n ≤ 0xFFFD) ||
    0x10000 ≤ n

/-- The text with a line feed for every line end. -/
def withLineFeeds : List Char → List Char
  | '\r' :: '\n' :: rest => '\n' :: withLineFeeds rest
  | '\r' :: rest | '\u0085' :: rest => '\n' :: withLineFeeds rest
  | c :: rest => c :: withLineFeeds rest
  | [] => []

/-- Characters that end a line. -/
def isBreak (c : Char) : Bool := c = '\n' || c = '\u2028' || c = '\u2029'

/-- Characters that separate words on a line. -/
def isSpacing (c : Char) : Bool := c = ' ' || c = '\t'

/-- Nothing but spacing, the end of a line or the end of the text comes next. -/
def atSpacing : List Char → Bool
  | [] => true
  | c :: _ => isSpacing c || isBreak c

/-- Characters of names: those of anchors, directives and tag handles. -/
def isNameChar (c : Char) : Bool := c.isAlphanum || c = '_' || c = '-'

/-- Three times a character, as a word of its own. -/
def atMark (c : Char) : List Char → Bool
  | c₁ :: c₂ :: c₃ :: rest => c₁ = c && c₂ = c && c₃ = c && atSpacing rest
  | _ => false

/-- A mark between documents comes next, if this is the start of a line. -/
def atDocumentMark (cs : List Char) : Bool := atMark '-' cs || atMark '.' cs

/-- A place in a text: what is left, and where that starts. -/
structure Cursor where
  rest : List Char
  line : Nat := 0
  column : Nat := 0
  deriving DecidableEq, Repr

namespace Cursor

/-- Goes over some characters of a line. -/
def forward (c : Cursor) (count : Nat) : Cursor :=
  { c with rest := c.rest.drop count, column := c.column + count }

/-- Goes over a line end. -/
def nextLine (c : Cursor) : Cursor := { rest := c.rest.drop 1, line := c.line + 1, column := 0 }

/-- Goes over a line end, if one comes next. -/
def overBreak (c : Cursor) : Cursor :=
  match c.rest with
  | b :: _ => if isBreak b then c.nextLine else c
  | [] => c

/-- The characters of a class that come next, all of one line, and the place behind them. -/
def span (c : Cursor) (isMember : Char → Bool) : List Char × Cursor :=
  let taken := c.rest.takeWhile isMember
  (taken, c.forward taken.length)

/-- The place behind the characters of a class. -/
def skip (c : Cursor) (isMember : Char → Bool) : Cursor := (c.span isMember).2

/-- The place at the end of a comment, if one comes next. -/
def overComment (c : Cursor) : Cursor :=
  match c.rest with
  | '#' :: _ => c.skip (!isBreak ·)
  | _ => c

/-- The start of the next line, if only spacing and a comment are left on this one. -/
def endLine? (c : Cursor) : Option Cursor :=
  let c := (c.skip isSpacing).overComment
  match c.rest with
  | [] => some c
  | b :: _ => if isBreak b then some c.nextLine else none

/-- The start of a text, behind its byte order mark if it has one. -/
def ofText (cs : List Char) : Cursor :=
  match cs with
  | '\ufeff' :: rest => { rest, column := 1 }
  | rest => { rest }

end Cursor

end SampleLoad.Yaml
