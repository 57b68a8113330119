import SampleLoad.Schema.Basic

/-!
When a schema can be used. Its columns stand at the positions they state, under distinct names, each with
a strategy that serves it. A collection has at most one key column, a time series exactly one, which holds
timestamps; a key column is the first column. `Schema.validate` finds the first violation.
-/

namespace SampleLoad

/-- What a schema, or a template that describes one, does wrong. -/
inductive SchemaFault where
  | noColumns
  | misplaced (column : String) (position : UInt64) (index : Nat)
  | duplicateName (column : String)
  | strategy (column : String) (fault : StrategyFault)
  | manyKeys (count : Nat)
  | keyNotFirst (column : String) (position : UInt64)
  | keyCount (count : Nat)
  | keyNotTime (column : String)
  | unsupportedType (type : UnsupportedColumnType)
  /-- A column wants the cursor's time where there is none. -/
  | noCursorTime (column : String)
  /-- A reason that is known by its text alone. -/
  | stated (text : String)
  deriving DecidableEq

namespace SchemaFault

def message : SchemaFault → String
  | noColumns => "schema has no columns"
  | misplaced column position index =>
    "column '" ++ column ++ "' declares position " ++ toString position.toNat ++ " but is column " ++
      toString index
  | duplicateName column => "duplicate column name '" ++ column ++ "'"
  | strategy column fault => "column '" ++ column ++ "': " ++ fault.message
  | manyKeys count => "collection declares " ++ toString count ++ " key columns"
  | keyNotFirst column position =>
    "collection key '" ++ column ++ "' must be at position 0, found at " ++ toString position.toNat
  | keyCount count => "time series needs exactly one key column, found " ++ toString count
  | keyNotTime column => "time series key '" ++ column ++ "' must be a TIMESTAMP at position 0"
  | unsupportedType type => type.message
  | noCursorTime column => "column '" ++ column ++ "' has no cursor time"
  | stated text => text

end SchemaFault

/-- Why a schema or a template could not be had. -/
inductive SchemaError where
  /-- The template file cannot be read; the text is that of the system. -/
  | unreadable (text : String)
  /-- The template document is not well-formed or has not the expected shape. -/
  | malformed
  | unknownTemplate (id : String)
  | mismatch (container : String) (fault : SchemaFault)
  deriving DecidableEq

namespace SchemaError

def message : SchemaError → String
  | unreadable text => "Failed to read template file: " ++ text
  | malformed => "Failed to parse YAML"
  | unknownTemplate id => "Unknown template: " ++ id
  | mismatch container fault =>
    "Schema mismatch in container '" ++ container ++ "': " ++ fault.message

end SchemaError

namespace Schema

/-- Checks the columns from `index` on one by one; `seen` holds the names of those before. -/
def checkColumns : (index : Nat) → (seen : List String) → List Column → Except SchemaFault Unit
  | _, _, [] => .ok ()
  | index, seen, c :: rest =>
    if c.position.toNat ≠ index then .error (.misplaced c.name c.position index)
    else if c.name ∈ seen then .error (.duplicateName c.name)
    else match c.strategy.check c.type with
      | .error fault => .error (.strategy c.name fault)
      | .ok () => checkColumns (index + 1) (c.name :: seen) rest

/-- Checks the key columns, which are given in order. -/
def checkKeys : ContainerKind → List Column → Except SchemaFault Unit
  | .collection, keys =>
    if 1 < keys.length then .error (.manyKeys keys.length)
    else match keys.find? (·.position ≠ 0) with
      | some key => .error (.keyNotFirst key.name key.position)
      | none => .ok ()
  | .timeSeries, [key] =>
    if key.position ≠ 0 || key.type ≠ .timestamp then .error (.keyNotTime key.name) else .ok ()
  | .timeSeries, keys => .error (.keyCount keys.length)

/-- The first thing wrong with a schema. -/
def check (s : Schema) : Except SchemaFault Unit :=
  if s.columns = [] then .error .noColumns
  else match checkColumns 0 [] s.columns with
    | .error fault => .error fault
    | .ok () => checkKeys s.kind (s.columns.filter (·.isKey))

/-- Checks every rule for schemas. -/
def validate (s : Schema) : Except SchemaError Unit :=
  match s.check with
  | .error fault => .error (.mismatch s.name fault)
  | .ok () => .ok ()

end Schema

end SampleLoad
