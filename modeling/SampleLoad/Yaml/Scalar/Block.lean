import SampleLoad.Yaml.Scalar.Gap

/-!
Block scalars: the lines below a bar or an angle bracket, as far as they are indented. A bar keeps line
ends, an angle bracket folds those between two lines that do not start with spacing. The first line shows
the indentation, unless a digit behind the indicator states it; a hyphen there drops the line ends at the
end of the scalar, and a plus sign keeps them all.
-/

namespace SampleLoad.Yaml.Block

/-- What becomes of the line ends at the end. -/
inductive Chomping where
  | strip
  | clip
  | keep
  deriving DecidableEq, Repr

/-- What stands behind the indicator. -/
structure Header where
  chomping : Chomping
  increment? : Option Nat
  deriving DecidableEq, Repr

namespace Header

def chomping? : Char → Option Chomping
  | '+' => some .keep
  | '-' => some .strip
  | _ => none

/-- Reads the stated indentation, which is no zero, if there is one. -/
def readIncrement (c : Cursor) : Option (Option Nat × Cursor) :=
  match c.rest with
  | d :: _ =>
    if d = '0' then none
    else if d.isDigit then some (some (d.toNat - 48), c.forward 1)
    else some (none, c)
  | [] => some (none, c)

/-- Reads a sign for the line ends, if there is one. -/
def readChomping (c : Cursor) : Option Chomping × Cursor :=
  match c.rest.head?.bind chomping? with
  | some chomping => (some chomping, c.forward 1)
  | none => (none, c)

/-- Reads what stands behind the indicator, in either order. -/
def read (c : Cursor) : Option (Header × Cursor) :=
  match readChomping c with
  | (some chomping, c) => (readIncrement c).map fun (increment?, c) => (⟨chomping, increment?⟩, c)
  | (none, c) =>
    (readIncrement c).map fun (increment?, c) =>
      let (chomping?, c) := readChomping c
      (⟨chomping?.getD .clip, increment?⟩, c)

end Header

/-- Reads blank lines and the indentation of the next line; also gives the deepest indentation met. While
none is settled, any number of blanks counts as indentation. The line ends are in reverse. -/
def readBreaks (indent? : Option Nat) (deepest : Nat) (seen : List Char) :
    (line column : Nat) → List Char → Option (List Char × Nat × Cursor)
  | line, column, [] => some (seen, max deepest column, ⟨[], line, column⟩)
  | line, column, c :: rest =>
    if indent?.all (column < ·) && c = ' ' then readBreaks indent? deepest seen line (column + 1) rest
    else if indent?.all (column < ·) && c = '\t' then none
    else if isBreak c then readBreaks indent? (max deepest column) (c :: seen) (line + 1) 0 rest
    else some (seen, max deepest column, ⟨c :: rest, line, column⟩)

/-- How the lines of a block become its text. -/
structure Form where
  isFolded : Bool
  chomping : Chomping
  indent : Nat
  deriving DecidableEq, Repr

/-- The text before the end of a block: without the line end behind it, which is `pending?`, and without the
blank lines after that. All are in reverse. -/
structure Gathered where
  seen : List Char := []
  pending? : Option Char := none
  breaks : List Char
  /-- The last line starts with spacing. -/
  afterSpacing : Bool := false
  deriving DecidableEq, Repr

namespace Form

/-- Adds a line. Its line end before it is folded if neither line starts with spacing. -/
def addLine (form : Form) (g : Gathered) (line : List Char) (pending? : Option Char) (breaks : List Char) :
    Gathered :=
  let startsWithSpacing := line.head?.any isSpacing
  let joins := form.isFolded && g.pending? = some '\n' && !g.afterSpacing && !startsWithSpacing
  let lineEnd := if joins then (if g.breaks.isEmpty then [' '] else []) else g.pending?.toList
  { seen := line.reverse ++ g.breaks ++ lineEnd ++ g.seen, pending?, breaks, afterSpacing := startsWithSpacing }

/-- The text, with as many line ends at the end as are wanted. -/
def text (form : Form) (g : Gathered) : String :=
  let kept := match form.chomping with
    | .strip => g.seen
    | .clip => g.pending?.toList ++ g.seen
    | .keep => g.breaks ++ g.pending?.toList ++ g.seen
  .ofList kept.reverse

/-- Reads the lines that stand at the indentation. -/
def readLines (form : Form) : (fuel : Nat) → Gathered → Cursor → Option ScannedScalar
  | 0, _, _ => none
  | fuel + 1, g, c =>
    if c.rest.isEmpty || c.column ≠ form.indent then some { text := form.text g, cursor := c }
    else
      let (line, c) := c.span (!isBreak ·)
      let start := c.overBreak
      match readBreaks (some form.indent) 0 [] start.line start.column start.rest with
      | none => none
      | some (breaks, _, next) => readLines form fuel (form.addLine g line c.rest.head? breaks) next

end Form

/-- Reads the block scalar that starts at a place with its indicator. Its lines stand at the margin or
behind it, and are indented by one blank at least. -/
def scan? (isFolded : Bool) (margin : Nat) (c : Cursor) : Option ScannedScalar := do
  let (header, c) ← Header.read (c.forward 1)
  let start ← c.endLine?
  let stated? := header.increment?.map (margin - 1 + ·)
  let (breaks, deepest, c) ← readBreaks stated? 0 [] start.line start.column start.rest
  let indent := stated?.getD (max (max deepest margin) 1)
  Form.readLines ⟨isFolded, header.chomping, indent⟩ (c.rest.length + 1) { breaks } c

end SampleLoad.Yaml.Block
