import SampleLoad.Yaml.Scalar.Gap

/-!
Plain scalars: words without quotes, over one line or several. A colon that ends a word ends the scalar, and
so do a comment, a mark between documents and a line that is indented too little; inside flow collections
the characters of these end it too.
-/

namespace SampleLoad.Yaml.Plain

/-- Characters that separate and enclose the items of a flow. -/
def isFlowIndicator (c : Char) : Bool := c = ',' || c = '[' || c = ']' || c = '\x7b' || c = '\x7d'

/-- Characters that begin no plain scalar. -/
def isIndicator (c : Char) : Bool :=
  isFlowIndicator c ||
    c ∈ ['-', '?', ':', '#', '&', '*', '!', '|', '>', '\'', '"', '%', '@', '\x60']

/-- A plain scalar comes next. A hyphen may begin it, and outside of flows also a question mark or a colon,
if no spacing follows. -/
def starts (inFlow : Bool) : List Char → Bool
  | [] => false
  | c :: rest =>
    !(isSpacing c || isBreak c || isIndicator c) || (c = '-' && !(rest.head?.any isSpacing)) ||
      (!inFlow && (c = '?' || c = ':') && !atSpacing rest)

/-- The word before these characters ends the scalar. -/
def endsAt (inFlow : Bool) : List Char → Bool
  | [] => true
  | c :: rest => (c = ':' && atSpacing rest) || (inFlow && isFlowIndicator c)

/-- A colon that a flow cannot hold: it is neither inside a word nor at the end of one. -/
def isStrayColon (inFlow : Bool) : List Char → Bool
  | ':' :: c :: _ => inFlow && (isFlowIndicator c || c = '?')
  | _ => false

/-- No further word of the scalar begins at a place that follows a gap. -/
def endsAfterGap (inFlow : Bool) (margin column : Nat) (cs : List Char) : Bool :=
  (!inFlow && column < margin) || (column = 0 && atDocumentMark cs) || cs.head? = some '#'

/-- Reads on. The text so far is in reverse and does not include the gap behind it; lines that continue the
scalar start at the margin or behind it. -/
def read (inFlow : Bool) (margin : Nat) (seen : List Char) (gap : Gap) :
    (line column : Nat) → List Char → Option ScannedScalar
  | line, column, [] => some ⟨.ofList seen.reverse, ⟨[], line, column⟩, gap.hasBreak⟩
  | line, column, c :: rest =>
    if isSpacing c then
      if gap.hasBreak && column < margin && c = '\t' then none
      else read inFlow margin seen (gap.addSpacing c) line (column + 1) rest
    else if isBreak c then read inFlow margin seen (gap.addBreak c) (line + 1) 0 rest
    else if !gap.isNone && endsAfterGap inFlow margin column (c :: rest) then
      some ⟨.ofList seen.reverse, ⟨c :: rest, line, column⟩, gap.hasBreak⟩
    else if isStrayColon inFlow (c :: rest) then none
    else if endsAt inFlow (c :: rest) then
      some ⟨.ofList seen.reverse, ⟨c :: rest, line, column⟩, gap.hasBreak⟩
    else read inFlow margin (c :: (gap.folded ++ seen)) .none line (column + 1) rest

/-- Reads the plain scalar that starts at a place. -/
def scan? (inFlow : Bool) (margin : Nat) (c : Cursor) : Option ScannedScalar :=
  read inFlow margin [] .none c.line c.column c.rest

end SampleLoad.Yaml.Plain
