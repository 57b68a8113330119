import SampleLoad.Number.Integer
import SampleLoad.Schema.ColumnType
import SampleLoad.Text.Quoted

/-!
How the values of a column are made up. Each strategy yields values of one column type. `check` holds a
strategy against a type and refuses parameters that leave no value to draw or lead out of the range of
32-bit integers.
-/

namespace SampleLoad

inductive Strategy where
  /-- The time of the row's cursor. -/
  | cursor
  /-- An integer drawn from `0` up to but not including `bound`, plus `bias`. -/
  | uniformInt (bound bias : Int32)
  /-- A text followed by a number drawn from `base` up to but not including `base + spread`. -/
  | token (stem : String) (base spread : Int32)
  /-- So many letters and digits. -/
  | alphanumeric (length : UInt64)
  | coinFlip
  /-- A number drawn from zero up to but not including one. -/
  | unitDouble
  | unitFloat
  deriving DecidableEq

namespace Strategy

/-- What a column gets that names no strategy. -/
def default : ColumnType → Strategy
  | .timestamp => cursor
  | .integer => uniformInt 1000 0
  | .string => alphanumeric 8
  | .bool => coinFlip
  | .double => unitDouble
  | .float => unitFloat

/-- The type of the values. -/
def valueType : Strategy → ColumnType
  | cursor => .timestamp
  | uniformInt .. => .integer
  | token .. => .string
  | alphanumeric _ => .string
  | coinFlip => .bool
  | unitDouble => .double
  | unitFloat => .float

/-- The strategy yields values of the type. -/
def fits (s : Strategy) (t : ColumnType) : Bool := s.valueType = t

/-- The strategy with its parameters, as error texts show it. -/
def description : Strategy → String
  | cursor => "Cursor"
  | uniformInt bound bias =>
    "UniformInt \x7b bound: " ++ toString bound.toInt ++ ", bias: " ++ toString bias.toInt ++ " \x7d"
  | token stem base spread =>
    "Token \x7b prefix: " ++ Quoted.text stem ++ ", base: " ++ toString base.toInt ++ ", spread: " ++
      toString spread.toInt ++ " \x7d"
  | alphanumeric length => "Alphanumeric \x7b length: " ++ toString length.toNat ++ " \x7d"
  | coinFlip => "CoinFlip"
  | unitDouble => "UnitDouble"
  | unitFloat => "UnitFloat"

end Strategy

/-- Why a strategy cannot serve a column. -/
inductive StrategyFault where
  | unfit (strategy : Strategy) (type : ColumnType)
  | boundNotPositive (bound : Int32)
  | beyondInteger (bound bias : Int32)
  | spreadNotPositive (spread : Int32)
  deriving DecidableEq

namespace StrategyFault

def message : StrategyFault → String
  | unfit strategy type =>
    "strategy " ++ strategy.description ++ " cannot produce " ++ type.wireName ++ " values"
  | boundNotPositive bound => "uniform_int bound must be positive, got " ++ toString bound.toInt
  | beyondInteger bound bias =>
    "uniform_int bound " ++ toString bound.toInt ++ " with bias " ++ toString bias.toInt ++
      " exceeds the INTEGER range"
  | spreadNotPositive spread => "token spread must be positive, got " ++ toString spread.toInt

end StrategyFault

namespace Strategy

/-- The strategy fits the type and its parameters describe a range that is not empty and stays within
32-bit integers. -/
def check (s : Strategy) (t : ColumnType) : Except StrategyFault Unit :=
  if s.fits t then
    match s with
    | uniformInt bound bias =>
      if bound ≤ 0 then .error (.boundNotPositive bound)
      else if (addInRange? (bound - 1) bias).isNone then .error (.beyondInteger bound bias)
      else .ok ()
    | token _ _ spread => if spread ≤ 0 then .error (.spreadNotPositive spread) else .ok ()
    | _ => .ok ()
  else .error (.unfit s t)

end Strategy

end SampleLoad
