import SampleLoad.Yaml.Cursor

/-!
The white space between two words of a scalar. On one line it counts as it stands. Over a line end it is
folded: one line end becomes a blank, and of several the first is dropped. Only line feeds are folded, the
line and paragraph separators are kept.
-/

namespace SampleLoad.Yaml

/-- White space after a word; the characters are in reverse. -/
inductive Gap where
  /-- Spacing, or nothing. -/
  | spacing (seen : List Char)
  /-- Line ends: the first one, unless it was escaped, and those after it. -/
  | lines (first? : Option Char) (seen : List Char)
  deriving DecidableEq, Repr

namespace Gap

def none : Gap := spacing []

def hasBreak : Gap → Bool
  | spacing _ => false
  | lines .. => true

def isNone : Gap → Bool
  | spacing [] => true
  | _ => false

/-- Adds a character of spacing, which does not count behind a line end. -/
def addSpacing (c : Char) : Gap → Gap
  | spacing seen => spacing (c :: seen)
  | gap => gap

/-- Adds a line end; spacing before it does not count. -/
def addBreak (c : Char) : Gap → Gap
  | spacing _ => lines (some c) []
  | lines first? seen => lines first? (c :: seen)

/-- The characters that the gap stands for, in reverse. -/
def folded : Gap → List Char
  | spacing seen => seen
  | lines Option.none seen => seen
  | lines (some first) seen =>
    if first = '\n' then (if seen.isEmpty then [' '] else seen) else seen ++ [first]

end Gap

/-- A scalar read: its text and the place behind it. -/
structure ScannedScalar where
  text : String
  cursor : Cursor
  /-- The scalar was followed by a line end, which has been read too. -/
  endsLine : Bool := false
  deriving DecidableEq, Repr

end SampleLoad.Yaml
