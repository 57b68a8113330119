import SampleLoad.Number.Integer

/-!
Reading whole numbers in decimal. A sign may stand in front; then come one or more digits, leading zeros
included. The digits are taken from the left, and the first fault met decides the error.
-/

namespace SampleLoad

/-- Why a text is not a number of the wanted range. -/
inductive NumberFault where
  | empty
  | invalidDigit
  | tooLarge
  deriving DecidableEq, Repr

namespace NumberFault

def message : NumberFault → String
  | empty => "cannot parse integer from empty string"
  | invalidDigit => "invalid digit found in string"
  | tooLarge => "number too large to fit in target type"

end NumberFault

/-- The value of a decimal digit. -/
def digitValue? (c : Char) : Option Nat :=
  if '0' ≤ c && c ≤ '9' then some (c.toNat - '0'.toNat) else none

/-- The value of a hexadecimal digit of either case. -/
def hexDigitValue? (c : Char) : Option Nat :=
  if '0' ≤ c && c ≤ '9' then some (c.toNat - 48)
  else if 'a' ≤ c && c ≤ 'f' then some (c.toNat - 87)
  else if 'A' ≤ c && c ≤ 'F' then some (c.toNat - 55)
  else none

/-- Continues a number with more digits, as long as it stays below the limit. -/
def readDigits (limit : Nat) : Nat → List Char → Except NumberFault Nat
  | value, [] => .ok value
  | value, c :: rest =>
    match digitValue? c with
    | none => .error .invalidDigit
    | some d =>
      if value * 10 + d < limit then readDigits limit (value * 10 + d) rest else .error .tooLarge

/-- Reads a number below a limit, with an optional plus sign. -/
def readNat (limit : Nat) : List Char → Except NumberFault Nat
  | [] => .error .empty
  | ['+'] => .error .invalidDigit
  | '+' :: rest => readDigits limit 0 rest
  | cs => readDigits limit 0 cs

/-- Reads a number from `-limit` up to but not including `limit`, with an optional sign. -/
def readInt? (limit : Nat) : List Char → Option Int
  | '-' :: rest =>
    match rest with
    | [] => none
    | _ => (readDigits (limit + 1) 0 rest).toOption.map fun n => -(n : Int)
  | cs => (readNat limit cs).toOption.map Int.ofNat

end SampleLoad
