import SampleLoad.Template.Registry

/-!
What a run is to load: a container, a schema and a number of rows, settled from a template before any
store is opened.
-/

namespace SampleLoad

/-- A run settled in all parts. -/
structure LoadRequest where
  container : String
  schema : Schema
  rowCount : Nat
  deriving DecidableEq

namespace LoadRequest

/-- The run of a template, with its defaults where nothing else is given. -/
def resolve (registry : Registry) (template : String) (container? : Option String)
    (rowCount? : Option Nat) : Except SchemaError LoadRequest :=
  match registry.get template with
  | .error e => .error e
  | .ok t =>
    match t.schema.validate with
    | .error e => .error e
    | .ok () => .ok ⟨container?.getD t.container, t.schema, rowCount?.getD t.rowCount⟩

end LoadRequest

end SampleLoad
