import SampleLoad.Schema.Validity
import SampleLoad.Template.Registry

/-!
Templates as they are declared. An entry names its column types by text and may leave out what has a default:
the container is called like the template, a run has 1000 rows, and a column gets the strategy of its type.
Entries are registered together or not at all.
-/

namespace SampleLoad

/-- A column as it is declared. -/
structure ColumnEntry where
  name : String
  type : String
  isKey : Bool := false
  strategy? : Option Strategy := none
  deriving DecidableEq

/-- A template as it is declared. -/
structure TemplateEntry where
  id : String
  container? : Option String := none
  /-- Below `2 ^ 64`. -/
  rowCount : Nat := 1000
  kind : ContainerKind
  columns : List ColumnEntry
  deriving DecidableEq

namespace ColumnEntry

/-- The column at a position. -/
def column (e : ColumnEntry) (position : Nat) : Except UnsupportedColumnType Column :=
  match ColumnType.parse e.type with
  | .error fault => .error fault
  | .ok type =>
    .ok {
      name := e.name
      position := .ofNat position
      type
      isKey := e.isKey
      strategy := e.strategy?.getD (.default type) }

end ColumnEntry

namespace TemplateEntry

/-- The columns from a position on, up to the first of an unsupported type. -/
def columnsFrom : (position : Nat) → List ColumnEntry → Except UnsupportedColumnType (List Column)
  | _, [] => .ok []
  | position, e :: rest =>
    match e.column position with
    | .error fault => .error fault
    | .ok c =>
      match columnsFrom (position + 1) rest with
      | .error fault => .error fault
      | .ok columns => .ok (c :: columns)

/-- The schema that the entry declares. -/
def schema (e : TemplateEntry) : Except SchemaError Schema :=
  match columnsFrom 0 e.columns with
  | .error fault => .error (.mismatch e.id (.unsupportedType fault))
  | .ok columns => .ok ⟨e.id, e.kind, columns⟩

/-- The template that the entry declares, if its schema is valid. -/
def template (e : TemplateEntry) : Except SchemaError Template :=
  match e.schema with
  | .error fault => .error fault
  | .ok schema =>
    match schema.validate with
    | .error fault => .error fault
    | .ok () => .ok ⟨e.id, e.container?.getD e.id, e.rowCount, schema⟩

/-- The templates of some entries, up to the first that is bad. -/
def templates : List TemplateEntry → Except SchemaError (List Template)
  | [] => .ok []
  | e :: rest =>
    match e.template with
    | .error fault => .error fault
    | .ok t =>
      match templates rest with
      | .error fault => .error fault
      | .ok ts => .ok (t :: ts)

end TemplateEntry

/-- Registers all entries, or none of them if one is bad. The answer is their number or what is wrong; beside it
stands the registry as it is then. -/
def Registry.registerEntries (r : Registry) (entries : List TemplateEntry) : Except SchemaError Nat × Registry :=
  match TemplateEntry.templates entries with
  | .error fault => (.error fault, r)
  | .ok ts => (.ok ts.length, r.registerAll ts)

end SampleLoad
