import SampleLoad.Text.LetterCase
import SampleLoad.Text.Printable
import SampleLoad.Url.Address
import SampleLoad.Url.Punycode

/-!
Names of hosts in any script. A name is folded to small letters and cut into labels at its full stops; a
label with characters outside ASCII is written in ASCII behind a mark of four characters. A label that comes
with the mark must be the written form of some label. Compatibility forms other than the wide forms of ASCII
are letters of their own here, and so are a letter with a mark after it and the same letter in one piece.
-/

namespace SampleLoad.DomainName

/-- What the written form of a label outside ASCII starts with. -/
def mark : List Char := ['x', 'n', '-', '-']

/-- Characters that leave no trace in a name: soft hyphens, joins and the choice of a glyph. -/
def tracelessRanges : Array (Nat × Nat) :=
  #[(0xad, 0xad), (0x34f, 0x34f), (0x180b, 0x180d), (0x180f, 0x180f), (0x200b, 0x200b), (0x2060, 0x2060),
    (0x2064, 0x2064), (0xfe00, 0xfe0f), (0xfeff, 0xfeff), (0x1bca0, 0x1bca3), (0xe0100, 0xe01ef)]

/-- Characters with a picture that no name may hold: fillers, marks on a blank, figures with a full stop, and
the signs of replacement and of the layout of ideographs. -/
def refusedRanges : Array (Nat × Nat) :=
  #[(0xa8, 0xa8), (0xaf, 0xaf), (0xb4, 0xb4), (0xb8, 0xb8), (0x2d8, 0x2dd), (0x37a, 0x37a),
    (0x384, 0x385), (0x115f, 0x1160), (0x17b4, 0x17b5), (0x2488, 0x249b), (0x2ff0, 0x2fff),
    (0x3164, 0x3164), (0xffa0, 0xffa0), (0xfffc, 0xfffd)]

/-- How a character stands in a name. The stops of ideographic scripts are full stops, and a wide form is
the character of ASCII that it widens. -/
def fold (c : Char) : List Char :=
  let code := c.toNat
  if code < 0x80 then [c.toLower]
  else if CodePoint.inRanges tracelessRanges code then []
  else if code = 0x3002 ∨ code = 0xff61 then ['.']
  else if 0xff01 ≤ code ∧ code ≤ 0xff5e then [(Char.ofNat (code - 0xfee0)).toLower]
  else [Char.ofNat (CodePoint.lowered code)]

/-- Whether a folded character may stand in a label. -/
def isAllowed (c : Char) : Bool :=
  c.toNat < 0x80 || (isPrintable c && !CodePoint.inRanges refusedRanges c.toNat)

/-- A label is sound if it is folded, all its characters are allowed and it does not start with a mark that
extends the character before it. -/
def isSound (label : List Char) : Bool :=
  (label.all fun c => isAllowed c && fold c == [c]) && !label.head?.any isGraphemeExtend

/-- The ASCII form of a folded label. -/
def asciiLabel? (label : List Char) : Option (List Char) :=
  if label.take 4 = mark then do
    let word ← Punycode.decode? (label.drop 4)
    if isSound word && !word.all Punycode.isBasic then some label else none
  else if label.all Punycode.isBasic then some label
  else if isSound label then some (mark ++ Punycode.encode label)
  else none

/-- The ASCII form of a name. -/
def ascii? (name : List Char) : Option (List Char) := do
  let written ← (splitAll '.' (name.flatMap fold)).mapM asciiLabel?
  pure (['.'].intercalate written)

end SampleLoad.DomainName
