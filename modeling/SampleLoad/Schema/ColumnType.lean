import SampleLoad.Text.Blank

/-!
The types a column may have, and their names. Names are read with surrounding white space dropped and
without regard to the case of ASCII letters; two types have a second name.
-/

namespace SampleLoad

inductive ColumnType where
  | timestamp
  | integer
  | string
  | bool
  | double
  | float
  deriving DecidableEq, Repr

/-- A text that names no column type. -/
structure UnsupportedColumnType where
  text : String
  deriving DecidableEq

namespace UnsupportedColumnType

def message (e : UnsupportedColumnType) : String := "unsupported column type '" ++ e.text ++ "'"

end UnsupportedColumnType

namespace ColumnType

def all : List ColumnType := [timestamp, integer, string, bool, double, float]

/-- The name in schemas, listings and request bodies. -/
def wireName : ColumnType → String
  | timestamp => "TIMESTAMP"
  | integer => "INTEGER"
  | string => "STRING"
  | bool => "BOOL"
  | double => "DOUBLE"
  | float => "FLOAT"

/-- The type with a wire name. -/
def ofWireName? (name : String) : Option ColumnType := all.find? (·.wireName = name)

theorem ofWireName?_wireName (t : ColumnType) : ofWireName? t.wireName = some t := by
  cases t <;> decide

/-- The type that a template names. -/
def parse (text : String) : Except UnsupportedColumnType ColumnType :=
  let name := String.ofList ((trimBoth isBlank text.toList).map Char.toUpper)
  match ofWireName? name with
  | some t => .ok t
  | none =>
    if name = "INT" then .ok integer
    else if name = "BOOLEAN" then .ok bool
    else .error ⟨text⟩

end ColumnType

end SampleLoad
