import Std.Data.HashMap
import SampleLoad.Schema.Validity

/-!
Templates and their registry. A template is a schema with the container and the number of rows of its
sample run. The registry finds templates by id and lists them in the order in which their ids were first
registered; three are built in.
-/

namespace SampleLoad

/-- The built-in templates. -/
inductive Builtin where
  | multipleTimeColumns
  | oneThousandRows
  | multipleType
  deriving DecidableEq, Repr

/-- A template: its id, its schema, and what its sample run does by default. -/
structure Template where
  id : String
  container : String
  rowCount : Nat
  schema : Schema
  deriving DecidableEq

namespace Builtin

/-- In the order of the sample run. -/
def all : List Builtin := [multipleTimeColumns, oneThousandRows, multipleType]

def id : Builtin → String
  | multipleTimeColumns => "multiple-time-columns"
  | oneThousandRows => "one-thousand-rows"
  | multipleType => "multiple-type"

def container : Builtin → String
  | multipleTimeColumns => "Multiple_Time_Columns"
  | oneThousandRows => "one_thousand_rows"
  | multipleType => "Multiple_Type"

def rowCount : Builtin → Nat
  | multipleTimeColumns => 10
  | oneThousandRows => 1000
  | multipleType => 500

/-- A number below one thousand. -/
def thousand : Strategy := .uniformInt 1000 0

def schema : Builtin → Schema
  | multipleTimeColumns =>
    (Schema.empty multipleTimeColumns.id .collection)
      |>.addPlain "time_1" .timestamp
      |>.addPlain "time_2" .timestamp
      |>.addColumn "column1" .string (.token "test-" 400 100)
      |>.addColumn "column2" .integer (.uniformInt 100 (-50))
  | oneThousandRows =>
    (Schema.empty oneThousandRows.id .timeSeries)
      |>.addKey "time" .timestamp
      |>.addColumn "column1" .integer thousand
      |>.addColumn "column2" .integer thousand
      |>.addColumn "column3" .integer thousand
      |>.addColumn "column4" .integer thousand
      |>.addColumn "column5" .integer thousand
  | multipleType =>
    (Schema.empty multipleType.id .timeSeries)
      |>.addKey "time" .timestamp
      |>.addColumn "column1" .integer thousand
      |>.addColumn "column2" .string (.alphanumeric 8)
      |>.addPlain "column3" .bool
      |>.addPlain "column4" .double
      |>.addPlain "column5" .float

def template (b : Builtin) : Template := ⟨b.id, b.container, b.rowCount, b.schema⟩

/-- The built-in template with an id. -/
def ofId (id : String) : Except SchemaError Builtin :=
  match all.find? (·.id = id) with
  | some b => .ok b
  | none => .error (.unknownTemplate id)

end Builtin

/-- Templates in order, and where each id stands among them. -/
structure Registry where
  templates : Array Template
  index : Std.HashMap String Nat

namespace Registry

def empty : Registry := ⟨#[], ∅⟩

/-- Adds a template. One that has the id already is replaced in its place. -/
def register (r : Registry) (t : Template) : Registry :=
  match r.index[t.id]? with
  | some i => { r with templates := r.templates.setIfInBounds i t }
  | none => ⟨r.templates.push t, r.index.insert t.id r.templates.size⟩

def registerAll (r : Registry) (ts : List Template) : Registry := ts.foldl register r

/-- A registry of the built-in templates. -/
def builtin : Registry := empty.registerAll (Builtin.all.map Builtin.template)

/-- The template with an id. -/
def get (r : Registry) (id : String) : Except SchemaError Template :=
  match r.index[id]? with
  | none => .error (.unknownTemplate id)
  | some i =>
    match r.templates[i]? with
    | none => .error (.unknownTemplate id)
    | some t => .ok t

/-- The schema of the template with an id. -/
def schemaFor (r : Registry) (id : String) : Except SchemaError Schema := (r.get id).map (·.schema)

/-- The ids in the order of their first registration. -/
def ids (r : Registry) : List String := r.templates.toList.map (·.id)

end Registry

end SampleLoad
