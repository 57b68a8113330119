import SampleLoad.Json.Printer
import SampleLoad.Rows.Value
import SampleLoad.Schema.Basic
import SampleLoad.Store.Basic

/-!
Request bodies: the definition of a container, and rows as arrays of cells. A timestamp cell has three
decimals; a 32-bit number is widened first; a number that is not finite has no cell.
-/

namespace SampleLoad.WebApi

/-- A floating point cell. -/
def floatCell (d : Double) : Except StoreError Json :=
  if d.isFinite then .ok (.float d) else .error (.encoding ("non-finite float " ++ d.specialName))

/-- The cell of a value. -/
def cell : Value → Except StoreError Json
  | .timestamp t => .ok (.str t.cellText)
  | .integer n => .ok (.whole n.toInt)
  | .string s => .ok (.str s)
  | .bool b => .ok (.bool b)
  | .double d => floatCell d
  | .float s => floatCell s.widen

/-- The cells of some values, up to the first that has none. -/
def cells : List Value → Except StoreError (List Json)
  | [] => .ok []
  | v :: rest =>
    match cell v with
    | .error e => .error e
    | .ok c =>
      match cells rest with
      | .error e => .error e
      | .ok cs => .ok (c :: cs)

/-- The arrays of some rows, up to the first that has none. -/
def rowArrays : List Row → Except StoreError (List Json)
  | [] => .ok []
  | r :: rest =>
    match cells r.values with
    | .error e => .error e
    | .ok cs =>
      match rowArrays rest with
      | .error e => .error e
      | .ok rows => .ok (.arr cs :: rows)

/-- The body that writes rows: an array of arrays. -/
def rowsBody (rows : Array Row) : Except StoreError Json := (rowArrays rows.toList).map .arr

/-- The body that creates a container. Whether there is a key is said by `rowkey`; the key is the first
column. -/
def containerInfo (name : String) (schema : Schema) : Json :=
  .obj [("container_name", .str name), ("container_type", .str schema.kind.wireName),
    ("rowkey", .bool schema.keyColumn?.isSome),
    ("columns", .arr (schema.columns.map fun c =>
      .obj [("name", .str c.name), ("type", .str c.type.wireName)]))]

/-- The body that drops a container. -/
def dropBody (name : String) : Json := .arr [.str name]

end SampleLoad.WebApi
