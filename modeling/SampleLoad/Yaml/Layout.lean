import SampleLoad.Yaml.Scalar.Block
import SampleLoad.Yaml.Scalar.Plain
import SampleLoad.Yaml.Scalar.Quoted
import SampleLoad.Yaml.Tag

/-!
From text to tokens. Outside of flows, a block opens where an item or a key is indented more than the block
around it, and closes at the first token that is indented less. A key shows itself only by the colon behind
it, so the place where one may have begun is kept until then: it must be on the same line and at most 1024
characters away. Where a block of keys stands, a key is the only thing that can begin a line, and its colon
must come.
-/

namespace SampleLoad.Yaml

/-- A place where a key may have begun. -/
structure KeyStart where
  /-- The number of tokens before it. -/
  index : Nat
  line : Nat
  column : Nat
  /-- Nothing but a key can stand there. -/
  isRequired : Bool
  deriving DecidableEq, Repr

namespace KeyStart

/-- The place is out of reach of a colon. -/
def isStale (k : KeyStart) (c : Cursor) : Bool := k.line < c.line || k.column + 1024 < c.column

end KeyStart

/-- The state of reading tokens. -/
structure Layout where
  cursor : Cursor
  tokens : Array Token := #[]
  /-- For each open block, from the inside out, the least column of what belongs to an item of it: one more
  than its own. -/
  margins : List Nat := []
  /-- Where a key may have begun inside the innermost flow, or outside of all. -/
  key? : Option KeyStart := none
  /-- The same for what is around each open flow. -/
  outerKeys : List (Option KeyStart) := []
  /-- A key may begin here. -/
  admitsKey : Bool := true

namespace Layout

def inFlow (s : Layout) : Bool := !s.outerKeys.isEmpty

/-- The margin of the innermost open block; zero if none is open. -/
def margin (s : Layout) : Nat := s.margins.headD 0

/-- Goes to the next token, over spacing, comments and line ends. A tab is spacing only where no key can
begin; outside of flows a key can begin on every new line. -/
def overBlanks (inFlow : Bool) : (admitsKey inComment : Bool) → (line column : Nat) → List Char → Bool × Cursor
  | admitsKey, _, line, column, [] => (admitsKey, ⟨[], line, column⟩)
  | admitsKey, inComment, line, column, c :: rest =>
    if isBreak c then overBlanks inFlow (admitsKey || !inFlow) false (line + 1) 0 rest
    else if inComment || c = '#' then overBlanks inFlow admitsKey true line (column + 1) rest
    else if c = ' ' || (c = '\t' && (inFlow || !admitsKey)) then
      overBlanks inFlow admitsKey false line (column + 1) rest
    else (admitsKey, ⟨c :: rest, line, column⟩)

def toToken (s : Layout) : Layout :=
  let (admitsKey, cursor) := overBlanks s.inFlow s.admitsKey false s.cursor.line s.cursor.column s.cursor.rest
  { s with cursor, admitsKey }

/-- Gives up the place where a key may have begun; one that is required cannot be given up. -/
def dropKey? (s : Layout) : Option Layout :=
  if s.key?.any (·.isRequired) then none else some { s with key? := none }

/-- Keeps this place, if a key may begin here. -/
def keepKey? (s : Layout) : Option Layout :=
  if s.admitsKey then
    s.dropKey?.map fun s =>
      { s with key? := some {
          index := s.tokens.size, line := s.cursor.line, column := s.cursor.column
          isRequired := !s.inFlow && s.margin = s.cursor.column + 1 } }
  else some s

/-- Gives up the places that are out of reach. -/
def dropStale? (s : Layout) : Option Layout := do
  let fresh (k? : Option KeyStart) : Option (Option KeyStart) :=
    match k? with
    | none => some none
    | some k => if k.isStale s.cursor then (if k.isRequired then none else some none) else some (some k)
  some { s with key? := ← fresh s.key?, outerKeys := ← s.outerKeys.mapM fresh }

/-- Closes the blocks whose margin is beyond a limit. -/
def closeBlocks (s : Layout) (limit : Nat) : Layout :=
  if s.inFlow then s
  else
    let closing := s.margins.takeWhile (limit < ·)
    { s with
      tokens := s.tokens ++ List.replicate closing.length Token.blockEnd
      margins := s.margins.drop closing.length }

/-- Opens a block at a column, unless one is open there; its token goes before the token with a number. -/
def openBlock (s : Layout) (column index : Nat) (token : Token) : Layout :=
  if s.inFlow || column < s.margin then s
  else { s with tokens := s.tokens.insertIdxIfInBounds index token, margins := (column + 1) :: s.margins }

/-- Adds a token of so many characters. -/
def push (s : Layout) (token : Token) (length : Nat) : Layout :=
  { s with tokens := s.tokens.push token, cursor := s.cursor.forward length }

/-- Adds a token that ends at a place. -/
def pushTo (s : Layout) (token : Token) (cursor : Cursor) : Layout :=
  { s with tokens := s.tokens.push token, cursor }

/-- What stands between documents closes all blocks. -/
def betweenDocuments? (s : Layout) : Option Layout :=
  (s.closeBlocks 0).dropKey?.map fun s => { s with admitsKey := false }

def documentMark? (s : Layout) (token : Token) : Option Layout :=
  s.betweenDocuments?.map fun s => s.push token 3

def directive? (s : Layout) : Option Layout := do
  let s ← s.betweenDocuments?
  let (token, cursor) ← scanDirective? s.cursor
  some (s.pushTo token cursor)

/-- A flow may be a key as a whole, and may begin with one. -/
def openFlow? (s : Layout) (token : Token) : Option Layout := do
  let s ← s.keepKey?
  some { s.push token 1 with key? := none, outerKeys := s.key? :: s.outerKeys, admitsKey := true }

def closeFlow? (s : Layout) (token : Token) : Option Layout := do
  let s := { ← s.dropKey? with admitsKey := false }
  let s := match s.outerKeys with
    | key? :: outerKeys => { s with key?, outerKeys }
    | [] => s
  some (s.push token 1)

def flowEntry? (s : Layout) : Option Layout :=
  s.dropKey?.map fun s => { s with admitsKey := true }.push .flowEntry 1

/-- A block may open here: outside of flows it must be where a key can begin. -/
def beginBlock? (s : Layout) (token : Token) : Option Layout :=
  if s.inFlow then some s
  else if s.admitsKey then some (s.openBlock s.cursor.column s.tokens.size token)
  else none

def blockEntry? (s : Layout) : Option Layout := do
  let s ← (← s.beginBlock? .blockSequenceStart).dropKey?
  some ({ s with admitsKey := true }.push .blockEntry 1)

def explicitKey? (s : Layout) : Option Layout := do
  let s ← (← s.beginBlock? .blockMappingStart).dropKey?
  some ({ s with admitsKey := !s.inFlow }.push .key 1)

/-- A colon makes a key of what began at the place that was kept. -/
def value? (s : Layout) : Option Layout :=
  match s.key? with
  | some k =>
    let s := { s with tokens := s.tokens.insertIdxIfInBounds k.index .key, key? := none, admitsKey := false }
    some ((s.openBlock k.column k.index .blockMappingStart).push .value 1)
  | none => do
    let s ← s.beginBlock? .blockMappingStart
    some ({ s with admitsKey := !s.inFlow }.push .value 1)

/-- A token that can be a key or stand before one, though no key can begin right behind it. -/
def keyed? (s : Layout) (scan : Cursor → Option (Token × Cursor)) : Option Layout := do
  let s ← s.keepKey?
  let (token, cursor) ← scan s.cursor
  some ({ s with admitsKey := false }.pushTo token cursor)

def quoted? (s : Layout) (quote : Char) : Option Layout :=
  s.keyed? fun c => (Quoted.scan? quote c).map fun scalar => (.scalar .quoted scalar.text, scalar.cursor)

def plain? (s : Layout) : Option Layout := do
  let s ← s.keepKey?
  let scalar ← Plain.scan? s.inFlow s.margin s.cursor
  some ({ s with admitsKey := scalar.endsLine }.pushTo (.scalar .plain scalar.text) scalar.cursor)

def block? (s : Layout) (isFolded : Bool) : Option Layout := do
  let s ← s.dropKey?
  let scalar ← Block.scan? isFolded s.margin s.cursor
  let style : ScalarStyle := if isFolded then .folded else .literal
  some ({ s with admitsKey := true }.pushTo (.scalar style scalar.text) scalar.cursor)

/-- Reads the token that starts with a character. -/
def token? (s : Layout) (c : Char) (rest : List Char) : Option Layout :=
  let startsLine := s.cursor.column = 0
  if startsLine && c = '%' then s.directive?
  else if startsLine && atMark '-' s.cursor.rest then s.documentMark? .documentStart
  else if startsLine && atMark '.' s.cursor.rest then s.documentMark? .documentEnd
  else if c = '[' then s.openFlow? .flowSequenceStart
  else if c = '\x7b' then s.openFlow? .flowMappingStart
  else if c = ']' then s.closeFlow? .flowSequenceEnd
  else if c = '\x7d' then s.closeFlow? .flowMappingEnd
  else if c = ',' then s.flowEntry?
  else if c = '-' && atSpacing rest then s.blockEntry?
  else if c = '?' && (s.inFlow || atSpacing rest) then s.explicitKey?
  else if c = ':' && (s.inFlow || atSpacing rest) then s.value?
  else if c = '*' then s.keyed? fun c => (scanAnchorName? c).map fun (name, c) => (.reference name, c)
  else if c = '&' then s.keyed? fun c => (scanAnchorName? c).map fun (name, c) => (.anchor name, c)
  else if c = '!' then s.keyed? (scanTag? s.inFlow)
  else if c = '|' && !s.inFlow then s.block? false
  else if c = '>' && !s.inFlow then s.block? true
  else if c = '\'' || c = '"' then s.quoted? c
  else if Plain.starts s.inFlow s.cursor.rest then s.plain?
  else none

/-- Reads tokens up to the end of the text. -/
def readAll? : (fuel : Nat) → Layout → Option (Array Token)
  | 0, _ => none
  | fuel + 1, s => do
    let s ← s.toToken.dropStale?
    let s := s.closeBlocks (s.cursor.column + 1)
    match s.cursor.rest with
    | [] => (s.closeBlocks 0).dropKey?.map (·.tokens)
    | c :: rest => readAll? fuel (← s.token? c rest)

end Layout

/-- The tokens of a text, if it can be read at all. -/
def tokens? (text : String) : Option (List Token) :=
  let cs := text.toList
  if cs.all isAllowed then
    (Layout.readAll? (cs.length + 1) { cursor := .ofText (withLineFeeds cs) }).map (·.toList)
  else none

end SampleLoad.Yaml
