import SampleLoad.Number.Reader
import SampleLoad.Yaml.Scalar.Gap

/-!
Quoted scalars. In single quotes the quote itself is written twice; in double quotes a backslash starts an
escape, and one at the end of a line joins it to the next. Line ends are folded.
-/

namespace SampleLoad.Yaml.Quoted

/-- The character of an escape of one letter. -/
def escapeOfLetter? (c : Char) : Option Char :=
  match c with
  | '0' => some '\x00'
  | 'a' => some '\x07'
  | 'b' => some '\x08'
  | 't' | '\t' => some '\t'
  | 'n' => some '\n'
  | 'v' => some '\x0b'
  | 'f' => some '\x0c'
  | 'r' => some '\r'
  | 'e' => some '\x1b'
  | ' ' | '"' | '/' | '\\' => some c
  | 'N' => some '\u0085'
  | '_' => some '\u00a0'
  | 'L' => some '\u2028'
  | 'P' => some '\u2029'
  | _ => none

/-- The number of hexadecimal digits that follow a letter. -/
def digitsAfter? (c : Char) : Option Nat :=
  match c with
  | 'x' => some 2
  | 'u' => some 4
  | 'U' => some 8
  | _ => none

/-- The character with a code point of so many digits. -/
def codePoint? (count : Nat) (cs : List Char) : Option Char :=
  if cs.length < count then none
  else match (cs.take count).mapM hexDigitValue? with
    | none => none
    | some digits =>
      let n := digits.foldl (fun n d => n * 16 + d) 0
      if n.isValidChar then some (.ofNat n) else none

/-- The character of an escape, of which the backslash is gone, and its length without that. -/
def escape? : List Char → Option (Char × Nat)
  | [] => none
  | letter :: rest =>
    match digitsAfter? letter with
    | some count => (codePoint? count rest).map fun c => (c, count + 1)
    | none => (escapeOfLetter? letter).map fun c => (c, 1)

/-- Reads on up to the closing quote. The text so far is in reverse and does not include the gap behind
it. -/
def read (quote : Char) : (fuel : Nat) → (seen : List Char) → Gap → Cursor → Option ScannedScalar
  | 0, _, _, _ => none
  | fuel + 1, seen, gap, c =>
    match c.rest with
    | [] => none
    | ch :: rest =>
      let seenWithGap := gap.folded ++ seen
      if isSpacing ch then read quote fuel seen (gap.addSpacing ch) (c.forward 1)
      else if isBreak ch then read quote fuel seen (gap.addBreak ch) c.nextLine
      else if c.column = 0 && atDocumentMark c.rest then none
      else if ch = quote then
        if quote = '\'' && rest.head? = some quote then
          read quote fuel (quote :: seenWithGap) .none (c.forward 2)
        else some { text := .ofList seenWithGap.reverse, cursor := c.forward 1 }
      else if ch = '\\' && quote = '"' then
        if rest.head?.any isBreak then read quote fuel seenWithGap (.lines none []) (c.forward 1).nextLine
        else match escape? rest with
          | some (escaped, length) => read quote fuel (escaped :: seenWithGap) .none (c.forward (length + 1))
          | none => none
      else read quote fuel (ch :: seenWithGap) .none (c.forward 1)

/-- Reads the quoted scalar that starts at a place with its quote. -/
def scan? (quote : Char) (c : Cursor) : Option ScannedScalar :=
  read quote (c.rest.length + 1) [] .none (c.forward 1)

end SampleLoad.Yaml.Quoted
