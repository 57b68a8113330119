import SampleLoad.Schema.Strategy

/-!
Container schemas. A container is a collection or a time series; its columns have a fixed order, which
each column also states as its position, and one of them may be the key.
-/

namespace SampleLoad

/-- A column: where it stands, what it holds, and how sample values for it are made up. -/
structure Column where
  name : String
  position : UInt64
  type : ColumnType
  isKey : Bool := false
  strategy : Strategy
  deriving DecidableEq

namespace Column

/-- A column that is no key, with the strategy its type gets by default. -/
def plain (name : String) (position : UInt64) (type : ColumnType) : Column :=
  { name, position, type, strategy := .default type }

end Column

inductive ContainerKind where
  | collection
  | timeSeries
  deriving DecidableEq, Repr

namespace ContainerKind

/-- The name in listings and request bodies. -/
def wireName : ContainerKind → String
  | collection => "COLLECTION"
  | timeSeries => "TIME_SERIES"

end ContainerKind

/-- The layout of a container. Its name is that of the template, not necessarily the container's. -/
structure Schema where
  name : String
  kind : ContainerKind
  columns : List Column
  deriving DecidableEq

namespace Schema

/-- The first column that is a key. -/
def keyColumn? (s : Schema) : Option Column := s.columns.find? (·.isKey)

/-- The first column with a name. -/
def column? (s : Schema) (name : String) : Option Column := s.columns.find? (·.name = name)

def columnNames (s : Schema) : List String := s.columns.map (·.name)

/-- The number of columns, and so of values in a row. -/
def width (s : Schema) : Nat := s.columns.length

/-- A schema without columns, to which columns are added in order. -/
def empty (name : String) (kind : ContainerKind) : Schema := ⟨name, kind, []⟩

/-- Adds a column behind the others, which also gives it its position. -/
def addColumn (s : Schema) (name : String) (type : ColumnType) (strategy : Strategy) : Schema :=
  { s with columns := s.columns ++ [{ name, position := .ofNat s.width, type, strategy }] }

/-- Adds a column with the default strategy of its type. -/
def addPlain (s : Schema) (name : String) (type : ColumnType) : Schema :=
  s.addColumn name type (.default type)

/-- Adds the key column, with the default strategy of its type. -/
def addKey (s : Schema) (name : String) (type : ColumnType) : Schema :=
  { s with
    columns := s.columns ++
      [{ name, position := .ofNat s.width, type, isKey := true, strategy := .default type }] }

end Schema

end SampleLoad
