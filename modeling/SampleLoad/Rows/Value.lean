import SampleLoad.Json.Printer
import SampleLoad.Schema.ColumnType
import SampleLoad.Time.Stamp

/-!
Values and rows. A value belongs to one column type; a row lists the values of the columns in order.
-/

namespace SampleLoad

inductive Value where
  | timestamp (t : Instant)
  | integer (n : Int32)
  | string (s : String)
  | bool (b : Bool)
  | double (d : Double)
  | float (s : Single)
  deriving DecidableEq

namespace Value

/-- The column type of the value. -/
def type : Value → ColumnType
  | timestamp _ => .timestamp
  | integer _ => .integer
  | string _ => .string
  | bool _ => .bool
  | double _ => .double
  | float _ => .float

def timestamp? : Value → Option Instant
  | timestamp t => some t
  | _ => none

def integer? : Value → Option Int32
  | integer n => some n
  | _ => none

def string? : Value → Option String
  | string s => some s
  | _ => none

def bool? : Value → Option Bool
  | bool b => some b
  | _ => none

def double? : Value → Option Double
  | double d => some d
  | _ => none

def float? : Value → Option Single
  | float s => some s
  | _ => none

/-- Equality of values, where numbers compare as numbers: a NaN differs from itself. -/
def numericEq : Value → Value → Bool
  | double a, double b => a.numericEq b
  | float a, float b => a.numericEq b
  | a, b => a = b

/-- The value as JSON text, floating point numbers in their own precision and timestamps exact. -/
def jsonText : Value → String
  | timestamp t => Json.quote t.exactText
  | integer n => toString n.toInt
  | string s => Json.quote s
  | bool b => if b then "true" else "false"
  | double d => if d.isFinite then d.decimalText else "null"
  | float s => if s.isFinite then s.decimalText else "null"

end Value

/-- The values of one row, in column order. -/
structure Row where
  values : List Value
  deriving DecidableEq

namespace Row

def width (r : Row) : Nat := r.values.length

def isEmpty (r : Row) : Bool := r.values.isEmpty

def get? (r : Row) (position : Nat) : Option Value := r.values[position]?

/-- The row as JSON text. -/
def jsonText (r : Row) : String := "[" ++ ",".intercalate (r.values.map Value.jsonText) ++ "]"

end Row

end SampleLoad
