import SampleLoad.Yaml.Untyped

/-!
Nodes of an expected type. A text is any scalar as it is written. Numbers and truth values are plain scalars,
or literal ones with the tag of the type. Where a collection is expected, nothing counts as an empty one. A
record is a mapping whose keys are texts; of the keys that it knows, none may come twice.
-/

namespace SampleLoad.Yaml

variable (d : Document)

/-- A text: any scalar as it is written. -/
def text (node : Node) : Reading String := do
  match ← follow d node with
  | .scalar _ _ s => return s
  | _ => failure

/-- A scalar that stands for a value of a standard type. -/
def typedScalar (type : String) (node : Node) : Reading String := do
  match ← follow d node with
  | .scalar tag? style s =>
    if style = .plain || (style = .literal && tag? = some (.standard type)) then return s else failure
  | _ => failure

/-- A truth value. -/
def flag (node : Node) : Reading Bool := do
  match boolOfWord? (← typedScalar d "bool" node) with
  | some b => return b
  | none => failure

/-- A whole number from zero up to a limit. -/
def natBelow (limit : Nat) (node : Node) : Reading Nat := do
  match natOfText? (← typedScalar d "int" node) with
  | some n => if n < limit then return n else failure
  | none => failure

/-- A node, unless it says that there is nothing. -/
def optional (node : Node) : Reading (Option Node) := do
  let node ← follow d node
  match node with
  | .scalar tag? .plain s =>
    match tag? with
    | none => return if s = "" || isNullWord s then none else some node
    | some tag =>
      if tag = .standard "null" then (if isNullWord s then return none else failure)
      else return some node
  | _ => return some node

/-- The items of a list. -/
def items (node : Node) : Reading (List Node) := do
  match ← follow d node with
  | .sequence _ items => return items
  | .scalar _ .plain "" => return []
  | _ => failure

/-- The entries of a mapping. -/
def entries (node : Node) : Reading (List (Node × Node)) := do
  match ← follow d node with
  | .mapping _ entries => return entries
  | .scalar _ .plain "" => return []
  | _ => failure

/-- The fields of a record that has some names; others are left out. -/
def fields (names : List String) (node : Node) : Reading (List (String × Node)) := do
  let all ← (← entries d node).mapM fun (key, value) => do return (← text d key, value)
  let known := all.filter fun (name, _) => name ∈ names
  if (known.map (·.1)).Nodup then return known else failure

/-- A field that a record must have. -/
def required (fields : List (String × Node)) (name : String) : Reading Node :=
  match fields.lookup name with
  | some node => pure node
  | none => failure

/-- One of some names: the name as a text, or as a tag with nothing behind it. -/
def choice (node : Node) : Reading String := do
  match ← follow d node with
  | .scalar tag? style s =>
    match Tag.localName? tag? with
    | none => return s
    | some name => if style = .plain && (s = "" || isNullWord s) then return name else failure
  | _ => failure

end SampleLoad.Yaml
