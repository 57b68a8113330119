import SampleLoad.Json.Basic
import SampleLoad.Schema.Basic
import SampleLoad.Schema.Parameter

/-!
Schemas as JSON. A schema is written as objects with every field. It is read from objects, whose members
may come in any order and among others, or from arrays of the fields in order. A strategy carries its name
as the member `type`, or as the first item. `is_key` may be left out when false.
-/

namespace SampleLoad

namespace Json

/-- A 64-bit number that is not negative. -/
def uint64? (j : Json) : Option UInt64 := (j.natBelow? wordLimit).map UInt64.ofNat

/-- A value as a parameter. -/
def parameter : Json → Parameter
  | whole n => .whole n
  | str s => .text s
  | _ => .other

/-- One of some names: the name itself, or an object with that name as its one key and nothing under it. -/
def name? : Json → Option String
  | str s => some s
  | obj [(key, null)] => some key
  | _ => none

/-- A field of a record that is written as an object or as an array of its fields in order. -/
def member? (key : String) (index : Nat) : Json → Option Json
  | obj members => (obj members).field? key
  | arr items => items[index]?
  | _ => none

/-- The record is an object, or an array of at most so many fields. -/
def isRecord (size : Nat) : Json → Bool
  | obj _ => true
  | arr items => items.length ≤ size
  | _ => false

end Json

namespace Strategy

/-- The parameters with their names. -/
def parameters : Strategy → List (String × Json)
  | uniformInt bound bias => [("bound", .whole bound.toInt), ("bias", .whole bias.toInt)]
  | token stem base spread =>
    [("prefix", .str stem), ("base", .whole base.toInt), ("spread", .whole spread.toInt)]
  | alphanumeric length => [("length", .whole length.toNat)]
  | _ => []

def toJson (s : Strategy) : Json := .obj (("type", .str s.tag) :: s.parameters)

/-- The strategy that a JSON value describes. -/
def ofJson? (j : Json) : Option Strategy := do
  let tag ← (← j.member? "type" 0).str?
  let names ← parameterNames? tag
  if j.isRecord (names.length + 1) then
    ofParameters? tag fun name => (j.member? name (names.idxOf name + 1)).map Json.parameter
  else none

end Strategy

namespace Column

def toJson (c : Column) : Json :=
  .obj [("name", .str c.name), ("position", .whole c.position.toNat), ("type", .str c.type.wireName),
    ("is_key", .bool c.isKey), ("strategy", c.strategy.toJson)]

/-- The column that a JSON value describes. -/
def ofJson? (j : Json) : Option Column := do
  if !j.isRecord 5 then none
  let name ← (← j.member? "name" 0).str?
  let position ← (← j.member? "position" 1).uint64?
  let type ← ColumnType.ofWireName? (← (← j.member? "type" 2).name?)
  let isKey ← match j.member? "is_key" 3 with
    | none => some false
    | some isKey => isKey.bool?
  let strategy ← Strategy.ofJson? (← j.member? "strategy" 4)
  some { name, position, type, isKey, strategy }

end Column

namespace ContainerKind

/-- The name in schemas and templates. -/
def tag : ContainerKind → String
  | collection => "collection"
  | timeSeries => "time_series"

def ofTag? (name : String) : Option ContainerKind :=
  if name = "collection" then some collection
  else if name = "time_series" then some timeSeries
  else none

end ContainerKind

namespace Schema

def toJson (s : Schema) : Json :=
  .obj [("name", .str s.name), ("kind", .str s.kind.tag), ("columns", .arr (s.columns.map Column.toJson))]

/-- The schema that a JSON value describes. -/
def ofJson? (j : Json) : Option Schema := do
  if !j.isRecord 3 then none
  let name ← (← j.member? "name" 0).str?
  let kind ← ContainerKind.ofTag? (← (← j.member? "kind" 1).name?)
  let columns ← (← (← j.member? "columns" 2).items?).mapM Column.ofJson?
  some { name, kind, columns }

end Schema

end SampleLoad
