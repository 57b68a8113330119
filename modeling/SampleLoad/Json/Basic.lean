import SampleLoad.Number.Binary

/-!
JSON values. Objects keep their members in order. A number is whole or floating: `5` and `5.0` are
different, and only the first is accepted where a whole number is wanted.
-/

namespace SampleLoad

inductive Json where
  | null
  | bool (b : Bool)
  | whole (n : Int)
  | float (d : Double)
  | str (s : String)
  | arr (items : List Json)
  | obj (members : List (String × Json))
  deriving Inhabited

namespace Json

/-- The value of the first member with a key. -/
def field? (key : String) : Json → Option Json
  | obj members => (members.find? (·.1 = key)).map (·.2)
  | _ => none

def str? : Json → Option String
  | str s => some s
  | _ => none

def bool? : Json → Option Bool
  | bool b => some b
  | _ => none

def whole? : Json → Option Int
  | whole n => some n
  | _ => none

/-- A whole number that is not negative and below a limit. -/
def natBelow? (limit : Nat) (j : Json) : Option Nat :=
  j.whole?.bind fun n => if 0 ≤ n ∧ n < limit then some n.toNat else none

def items? : Json → Option (List Json)
  | arr items => some items
  | _ => none

end Json

end SampleLoad
