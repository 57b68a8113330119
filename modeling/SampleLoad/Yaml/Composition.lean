import SampleLoad.Yaml.Layout
import SampleLoad.Yaml.Node

/-!
From tokens to a document. A text holds one document at most, with directives in front of it, and marks
before and behind it. Handles of tags are resolved on the way, and names of anchors become numbers: an anchor
has the number of names that were in use before it.
-/

namespace SampleLoad.Yaml

/-- The state of reading a document: the tokens that are left, and the names of anchors, each once. -/
structure Composition where
  tokens : List Token
  names : List (String × Nat) := []

/-- What the handles of tags stand for. -/
abbrev Handles := List (String × Tag)

/-- A step that reads some tokens, or finds that the next one cannot stand there. -/
abbrev Compose := StateT Composition Option

namespace Compose

def next? : Compose (Option Token) := do return (← get).tokens.head?

def skip : Compose Unit := modify fun s => { s with tokens := s.tokens.drop 1 }

/-- The next token is one of some kinds. -/
def nextIs (isKind : Token → Bool) : Compose Bool := do return (← next?).any isKind

/-- Reads a token that must come next. -/
def expect (token : Token) : Compose Unit := do
  if (← next?) = some token then skip else failure

/-- Gives an anchor its number. -/
def nameAnchor (name : String) : Compose Nat := do
  let s ← get
  let number := s.names.length
  let others := s.names.filter (·.1 ≠ name)
  set { s with names := (name, number) :: others }
  return number

/-- The tag with a handle and an ending. -/
def resolveTag (handles : Handles) (handle : String) (ending : Tag) : Compose Tag :=
  if handle = "" then pure ending
  else match handles.lookup handle with
    | some start => pure (start ++ ending)
    | none => failure

def anchorName? : Compose (Option String) := do
  match ← next? with
  | some (.anchor name) => skip; return some name
  | _ => return none

def tag? (handles : Handles) : Compose (Option Tag) := do
  match ← next? with
  | some (.tag handle ending) => skip; return some (← resolveTag handles handle ending)
  | _ => return none

/-- Anchor and tag of a node, in either order. -/
def properties (handles : Handles) : Compose (Option String × Option Tag) := do
  match ← anchorName? with
  | some name => return (some name, ← tag? handles)
  | none => do
    let tag? ← tag? handles
    if tag?.isSome then return (← anchorName?, tag?) else return (none, none)

end Compose

namespace Token

/-- Tokens at which an item of a block that has no node of its own ends. -/
def endsBlockItem : Token → Bool
  | blockEntry | blockEnd => true
  | _ => false

/-- Tokens at which an item of a list below a key that has no node of its own ends. -/
def endsNestedItem : Token → Bool
  | blockEntry | key | value | blockEnd => true
  | _ => false

/-- Tokens at which a missing key or value of a block ends. -/
def endsBlockPart : Token → Bool
  | key | value | blockEnd => true
  | _ => false

/-- Tokens at which a missing key of a flow that is a mapping ends. -/
def endsFlowKey : Token → Bool
  | value | flowEntry | flowMappingEnd => true
  | _ => false

/-- Tokens at which a missing value of a flow that is a mapping ends. -/
def endsFlowValue : Token → Bool
  | flowEntry | flowMappingEnd => true
  | _ => false

/-- Tokens at which the missing key of a single entry inside a list ends. -/
def endsPairKey : Token → Bool
  | value | flowEntry | flowSequenceEnd => true
  | _ => false

/-- Tokens at which the missing value of a single entry inside a list ends. -/
def endsPairValue : Token → Bool
  | flowEntry | flowSequenceEnd => true
  | _ => false

/-- Tokens that stand between documents. -/
def isBetweenDocuments : Token → Bool
  | versionDirective .. | tagDirective .. | documentStart | documentEnd => true
  | _ => false

end Token

namespace Compose

mutual

/-- A node. Blocks are admitted or not, and so are items at the indentation of the key above them. -/
def node (handles : Handles) : (fuel : Nat) → (admitsBlock admitsItems : Bool) → Compose Node
  | 0, _, _ => failure
  | fuel + 1, admitsBlock, admitsItems => do
    match ← next? with
    | some (.reference name) =>
      skip
      match (← get).names.lookup name with
      | some number => return .reference number
      | none => failure
    | _ => do
      let (name?, tag?) ← properties handles
      let number? ← match name? with
        | some name => some <$> nameAnchor name
        | none => pure none
      let content ← content handles fuel admitsBlock admitsItems tag? (name?.isSome || tag?.isSome)
      match number? with
      | some number => return .anchored number content
      | none => return content

/-- What a node consists of. It may be empty if it has an anchor or a tag. The tag that says nothing is
dropped from scalars. -/
def content (handles : Handles) : (fuel : Nat) → (admitsBlock admitsItems : Bool) → Option Tag →
    (admitsEmpty : Bool) → Compose Node
  | 0, _, _, _, _ => failure
  | fuel + 1, admitsBlock, admitsItems, tag?, admitsEmpty => do
    match ← next? with
    | some .blockEntry =>
      if admitsItems then return .sequence tag? (← nestedItems handles fuel)
      else if admitsEmpty then return .scalar tag? .plain ""
      else failure
    | some (.scalar style text) =>
      skip
      return .scalar (if tag? = some (.ofText "!") then none else tag?) style text
    | some .flowSequenceStart => skip; return .sequence tag? (← flowItems handles fuel true)
    | some .flowMappingStart => skip; return .mapping tag? (← flowEntries handles fuel true)
    | some .blockSequenceStart =>
      if admitsBlock then skip; return .sequence tag? (← blockItems handles fuel)
      else if admitsEmpty then return .scalar tag? .plain ""
      else failure
    | some .blockMappingStart =>
      if admitsBlock then skip; return .mapping tag? (← blockEntries handles fuel)
      else if admitsEmpty then return .scalar tag? .plain ""
      else failure
    | _ => if admitsEmpty then return .scalar tag? .plain "" else failure

/-- A node, unless one of some tokens shows that there is none. -/
def optionalNode (handles : Handles) : (fuel : Nat) → (isEnd : Token → Bool) → (admitsBlock admitsItems : Bool) →
    Compose Node
  | 0, _, _, _ => failure
  | fuel + 1, isEnd, admitsBlock, admitsItems => do
    if ← nextIs isEnd then return .empty else node handles fuel admitsBlock admitsItems

/-- The items of a block, up to its end. -/
def blockItems (handles : Handles) : (fuel : Nat) → Compose (List Node)
  | 0 => failure
  | fuel + 1 => do
    match ← next? with
    | some .blockEntry =>
      skip
      let item ← optionalNode handles fuel Token.endsBlockItem true false
      return item :: (← blockItems handles fuel)
    | some .blockEnd => skip; return []
    | _ => failure

/-- Items at the indentation of the key above them. Their end has no token of its own. -/
def nestedItems (handles : Handles) : (fuel : Nat) → Compose (List Node)
  | 0 => failure
  | fuel + 1 => do
    match ← next? with
    | some .blockEntry =>
      skip
      let item ← optionalNode handles fuel Token.endsNestedItem true false
      return item :: (← nestedItems handles fuel)
    | _ => return []

/-- The keys of a block with their values, up to its end. -/
def blockEntries (handles : Handles) : (fuel : Nat) → Compose (List (Node × Node))
  | 0 => failure
  | fuel + 1 => do
    match ← next? with
    | some .key =>
      skip
      let key ← optionalNode handles fuel Token.endsBlockPart true true
      let value ← value handles fuel Token.endsBlockPart true
      return (key, value) :: (← blockEntries handles fuel)
    | some .blockEnd => skip; return []
    | _ => failure

/-- What stands behind a key, if there is a colon. -/
def value (handles : Handles) : (fuel : Nat) → (isEnd : Token → Bool) → (inBlock : Bool) → Compose Node
  | 0, _, _ => failure
  | fuel + 1, isEnd, inBlock => do
    match ← next? with
    | some .value => skip; optionalNode handles fuel isEnd inBlock inBlock
    | _ => return .empty

/-- The items of a list in brackets, up to the closing one. -/
def flowItems (handles : Handles) : (fuel : Nat) → (isFirst : Bool) → Compose (List Node)
  | 0, _ => failure
  | fuel + 1, isFirst => do
    if (← next?) = some .flowSequenceEnd then
      skip
      return []
    if !isFirst then expect .flowEntry
    match ← next? with
    | some .flowSequenceEnd => skip; return []
    | some .key =>
      skip
      let entry ← pair handles fuel
      return .mapping none [entry] :: (← flowItems handles fuel false)
    | _ =>
      let item ← node handles fuel false false
      return item :: (← flowItems handles fuel false)

/-- A single entry inside a list in brackets. The token behind a missing key is lost. -/
def pair (handles : Handles) : (fuel : Nat) → Compose (Node × Node)
  | 0 => failure
  | fuel + 1 => do
    let key ← if ← nextIs Token.endsPairKey then do skip; pure Node.empty else node handles fuel false false
    return (key, ← value handles fuel Token.endsPairValue false)

/-- The entries of a mapping in braces, up to the closing one. A key need not be marked if it has no value. -/
def flowEntries (handles : Handles) : (fuel : Nat) → (isFirst : Bool) → Compose (List (Node × Node))
  | 0, _ => failure
  | fuel + 1, isFirst => do
    if (← next?) = some .flowMappingEnd then
      skip
      return []
    if !isFirst then expect .flowEntry
    match ← next? with
    | some .flowMappingEnd => skip; return []
    | some .key =>
      skip
      let key ← optionalNode handles fuel Token.endsFlowKey false false
      let value ← value handles fuel Token.endsFlowValue false
      return (key, value) :: (← flowEntries handles fuel false)
    | _ =>
      let key ← node handles fuel false false
      return (key, .empty) :: (← flowEntries handles fuel false)

end

/-- The handles that are known without a directive. -/
def defaultHandles : Handles := [("!", .ofText "!"), ("!!", .ofText "tag:yaml.org,2002:")]

/-- The directives before a document. There is at most one for the version, which must be 1.1 or 1.2, and
one for each handle. -/
def directives : (fuel : Nat) → (hasVersion : Bool) → Handles → Compose Handles
  | 0, _, _ => failure
  | fuel + 1, hasVersion, handles => do
    match ← next? with
    | some (.versionDirective major minor) =>
      if hasVersion || major ≠ 1 || (minor ≠ 1 && minor ≠ 2) then failure
      skip
      directives fuel true handles
    | some (.tagDirective handle start) =>
      if (handles.lookup handle).isSome then failure
      skip
      directives fuel hasVersion ((handle, start) :: handles)
    | _ => return handles ++ defaultHandles

/-- The root of a document, of which the mark before it may be missing if there are no directives. -/
def root (fuel : Nat) : Compose Node := do
  match ← next? with
  | none => return .empty
  | some token =>
    match token with
    | .versionDirective .. | .tagDirective .. | .documentStart => do
      let handles ← directives fuel false []
      expect .documentStart
      match ← next? with
      | none => return .empty
      | some token => if token.isBetweenDocuments then return .empty else node handles fuel true false
    | _ => node defaultHandles fuel true false

/-- Nothing but marks behind documents is left. -/
def isAtEnd (s : Composition) : Bool := s.tokens.all (· = .documentEnd)

end Compose

namespace Document

/-- The document that tokens make up. A text without any is an empty document. -/
def ofTokens? (tokens : List Token) : Option Document :=
  match (Compose.root (4 * tokens.length + 4)).run { tokens } with
  | some (root, s) => if Compose.isAtEnd s then some (ofRoot root) else none
  | none => none

/-- Reads a text of one document. -/
def parse? (text : String) : Option Document := (tokens? text).bind ofTokens?

end Document

end SampleLoad.Yaml
