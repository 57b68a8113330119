import SampleLoad.Schema.Strategy

/-!
Strategies in documents: each has a name there, and its parameters have names and an order. `bias` may be
left out when it is zero.
-/

namespace SampleLoad

/-- A parameter as a document gives it. -/
inductive Parameter where
  | whole (n : Int)
  | text (s : String)
  /-- Something that no parameter can be. -/
  | other
  deriving DecidableEq, Repr

namespace Parameter

def int32? : Parameter → Option Int32
  | whole n => int32OfInt? n
  | _ => none

def uint64? : Parameter → Option UInt64
  | whole n => if 0 ≤ n ∧ n < wordLimit then some (.ofNat n.toNat) else none
  | _ => none

def text? : Parameter → Option String
  | text s => some s
  | _ => none

end Parameter

namespace Strategy

/-- The names of strategies. -/
def tag : Strategy → String
  | cursor => "cursor"
  | uniformInt .. => "uniform_int"
  | token .. => "token"
  | alphanumeric _ => "alphanumeric"
  | coinFlip => "coin_flip"
  | unitDouble => "unit_double"
  | unitFloat => "unit_float"

/-- The names of the parameters of a strategy in order; none if no strategy has the name. -/
def parameterNames? (tag : String) : Option (List String) :=
  if tag = "cursor" || tag = "coin_flip" || tag = "unit_double" || tag = "unit_float" then some []
  else if tag = "uniform_int" then some ["bound", "bias"]
  else if tag = "token" then some ["prefix", "base", "spread"]
  else if tag = "alphanumeric" then some ["length"]
  else none

/-- The strategy with a name and parameters, which are looked up by name. -/
def ofParameters? (tag : String) (parameter? : String → Option Parameter) : Option Strategy :=
  if tag = "cursor" then some cursor
  else if tag = "uniform_int" then do
    let bound ← (← parameter? "bound").int32?
    let bias ← match parameter? "bias" with
      | none => some 0
      | some bias => bias.int32?
    some (uniformInt bound bias)
  else if tag = "token" then do
    let stem ← (← parameter? "prefix").text?
    let base ← (← parameter? "base").int32?
    let spread ← (← parameter? "spread").int32?
    some (token stem base spread)
  else if tag = "alphanumeric" then do
    let length ← (← parameter? "length").uint64?
    some (alphanumeric length)
  else if tag = "coin_flip" then some coinFlip
  else if tag = "unit_double" then some unitDouble
  else if tag = "unit_float" then some unitFloat
  else none

end Strategy

end SampleLoad
