import SampleLoad.Yaml.Cursor

/-!
The tokens of a YAML text. Where indentation shows the structure, tokens mark the start and the end of
each block, and a key is marked even if nothing but the colon behind it tells that it is one.
-/

namespace SampleLoad.Yaml

/-- How a scalar is written: bare, in quotes of either kind, or as a block of lines. -/
inductive ScalarStyle where
  | plain
  | quoted
  | literal
  | folded
  deriving DecidableEq, Repr

/-- A tag, as the bytes that it is made of. -/
abbrev Tag := List UInt8

/-- The bytes of a text. -/
def Tag.ofText (s : String) : Tag := s.toUTF8.toList

inductive Token where
  | versionDirective (major minor : Nat)
  | tagDirective (handle : String) (start : Tag)
  | documentStart
  | documentEnd
  | blockSequenceStart
  | blockMappingStart
  | blockEnd
  | flowSequenceStart
  | flowSequenceEnd
  | flowMappingStart
  | flowMappingEnd
  /-- The hyphen before an item of a block. -/
  | blockEntry
  /-- The comma between the items of a flow. -/
  | flowEntry
  | key
  | value
  | anchor (name : String)
  | reference (name : String)
  /-- A tag that ends in `ending`; the handle stands for its start. -/
  | tag (handle : String) (ending : Tag)
  | scalar (style : ScalarStyle) (text : String)
  deriving DecidableEq, Repr

end SampleLoad.Yaml
