import SampleLoad.Text.Utf8
import SampleLoad.Yaml.Node
import SampleLoad.Yaml.Resolution

/-!
What nodes stand for where no type is expected, and how aliases are followed. Collections may nest 128 deep,
and a document of `n` parts may follow aliases `100 * n` times, so that no document takes forever.
-/

namespace SampleLoad.Yaml

namespace Tag

/-- A tag of the standard. -/
def standard (name : String) : Tag := .ofText ("tag:yaml.org,2002:" ++ name)

/-- The name in a tag that starts with an exclamation mark. -/
def localName? (tag? : Option Tag) : Option String :=
  match tag? with
  | some (0x21 :: rest) => if rest.isEmpty then some "!" else Utf8.decode? rest
  | _ => none

/-- The tag says no more than that it is private to the document. -/
def isPrivate (tag : Tag) : Bool := tag.head? = some 0x21

end Tag

/-- Reading a document: the number of aliases that may still be followed, and failure. -/
abbrev Reading := StateT Nat Option

/-- How deep collections may nest. -/
def nestingLimit : Nat := 128

/-- Starts reading a document. -/
def Document.read (d : Document) (reading : Reading α) : Option α :=
  (reading.run (100 * d.root.size)).map (·.1)

/-- The node itself, or the one that an alias stands for. -/
def follow (d : Document) (node : Node) : Reading Node := do
  match node with
  | .reference number =>
    match ← get, d.anchor? number with
    | left + 1, some target => set left; return target
    | _, _ => failure
  | .anchored _ node => return node
  | node => return node

/-- A value whose type is known from itself alone. -/
inductive Untyped where
  | null
  | bool (b : Bool)
  | nat (n : Nat)
  /-- A number with a minus sign. -/
  | negative (n : Nat)
  /-- A real number, whose value nothing asks for. -/
  | real
  | text (s : String)
  | list (items : List Untyped)
  | map (entries : List (Untyped × Untyped))

namespace Untyped

/-- The whole number that a scalar stands for, if it fits in 64 bits. One that only fits in 128 bits cannot be
taken at all, and a greater one is none. -/
def wholeOfText (s : String) : Option (Option Untyped) :=
  match wholeOfText? s with
  | none => some none
  | some n =>
    if s.toList.head? = some '-' then
      if -(signedLimit : Int) ≤ n then some (some (negative n.natAbs))
      else if -(signedLimit * wordLimit : Int) ≤ n then none
      else some none
    else if n < wordLimit then some (some (nat n.natAbs))
    else if n < (wordLimit * wordLimit : Int) then none
    else some none

/-- The scalar is a number with leading zeros, which counts as text. -/
def isPaddedNumber (s : String) : Bool :=
  hasLeadingZero (match s.toList with
    | '-' :: cs | '+' :: cs => cs
    | cs => cs)

/-- What a plain scalar without a tag stands for. -/
def ofPlain (s : String) : Option Untyped :=
  if s = "" || isNullWord s then some null
  else match boolOfWord? s with
    | some b => some (bool b)
    | none =>
      match wholeOfText s with
      | none => none
      | some (some n) => some n
      | some none => some (if !isPaddedNumber s && isReal s then real else text s)

/-- What a scalar stands for. A tag of the standard decides, and the scalar must be of its kind; quotes make
text of a scalar without a tag. -/
def ofScalar (tag? : Option Tag) (style : ScalarStyle) (s : String) : Option Untyped :=
  match tag? with
  | none => if style = .plain then ofPlain s else some (text s)
  | some tag =>
    if (Tag.localName? tag?).isSome then none
    else if tag = .standard "bool" then (boolOfWord? s).map bool
    else if tag = .standard "int" then (wholeOfText s).bind id
    else if tag = .standard "float" then (if isReal s then some real else none)
    else if tag = .standard "null" then (if isNullWord s then some null else none)
    else if tag.isPrivate && style = .plain then ofPlain s
    else some (text s)

/-- What a node stands for, with so much depth left for collections. -/
def ofNode (d : Document) : (depth : Nat) → Node → Reading Untyped
  | depth, node => do
    match ← follow d node with
    | .scalar tag? style s => (ofScalar tag? style s : Option Untyped)
    | .sequence tag? items =>
      match depth with
      | 0 => failure
      | depth + 1 =>
        if (Tag.localName? tag?).isSome then failure
        list <$> items.mapM (ofNode d depth)
    | .mapping tag? entries =>
      match depth with
      | 0 => failure
      | depth + 1 =>
        if (Tag.localName? tag?).isSome then failure
        map <$> entries.mapM fun (key, value) => do
          return (← ofNode d depth key, ← ofNode d depth value)
    | _ => failure

end Untyped

end SampleLoad.Yaml
