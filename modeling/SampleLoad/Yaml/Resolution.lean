import SampleLoad.Number.Reader

/-!
What plain scalars stand for: nothing, a truth value, a number, or just text. Whole numbers may carry a sign
and be written in base 16, 8 or 2; in base 10 they have no leading zeros.
-/

namespace SampleLoad.Yaml

/-- The scalar is a word for nothing. -/
def isNullWord (s : String) : Bool := s = "~" || s = "null" || s = "Null" || s = "NULL"

def boolOfWord? (s : String) : Option Bool :=
  if s = "true" || s = "True" || s = "TRUE" then some true
  else if s = "false" || s = "False" || s = "FALSE" then some false
  else none

/-- The value of some digits, at least one. -/
def digitsValue? (base : Nat) (cs : List Char) : Option Nat :=
  if cs.isEmpty then none
  else cs.foldlM (fun n c => (hexDigitValue? c).bind fun d => if d < base then some (n * base + d) else none) 0

/-- Decimal digits that start with a superfluous zero. -/
def hasLeadingZero (cs : List Char) : Bool := cs.head? = some '0' && 1 < cs.length && cs.all Char.isDigit

/-- The value of digits in the base that they show; one that shows no base is 10. -/
def magnitude? (cs : List Char) : Option Nat :=
  match cs with
  | '0' :: 'x' :: digits => digitsValue? 16 digits
  | '0' :: 'o' :: digits => digitsValue? 8 digits
  | '0' :: 'b' :: digits => digitsValue? 2 digits
  | digits => if hasLeadingZero digits then none else digitsValue? 10 digits

/-- The whole number that a scalar stands for. -/
def wholeOfText? (s : String) : Option Int :=
  match s.toList with
  | '-' :: cs => (magnitude? cs).map fun n => -(n : Int)
  | '+' :: cs => (magnitude? cs).map Int.ofNat
  | cs => (magnitude? cs).map Int.ofNat

/-- The number from zero up that a scalar stands for; a minus sign is none of it. -/
def natOfText? (s : String) : Option Nat :=
  match s.toList with
  | '+' :: cs => magnitude? cs
  | cs => magnitude? cs

/-- Digits with a decimal point: those before it and those after it, at least one together. -/
def decimalDigits? (cs : List Char) : Option (List Char × List Char × List Char) :=
  let whole := cs.takeWhile Char.isDigit
  let (fraction, rest) := match cs.dropWhile Char.isDigit with
    | '.' :: rest => (rest.takeWhile Char.isDigit, rest.dropWhile Char.isDigit)
    | rest => ([], rest)
  if whole.isEmpty && fraction.isEmpty then none else some (whole, fraction, rest)

/-- A decimal exponent, which may be left out. -/
def exponent? (cs : List Char) : Option Int :=
  match cs with
  | [] => some 0
  | e :: rest =>
    if e = 'e' || e = 'E' then
      match rest with
      | '-' :: digits => (digitsValue? 10 digits).map fun n => -(n : Int)
      | '+' :: digits => (digitsValue? 10 digits).map Int.ofNat
      | digits => (digitsValue? 10 digits).map Int.ofNat
    else none

/-- The decimal number `significand * 10 ^ exponent` is beyond all 64-bit floating point numbers: it reaches
the middle between the greatest one and the power of two that follows. The number of digits decides at once
if it is far from 309. -/
def isBeyondDouble (significand : Nat) (exponent : Int) : Bool :=
  let digits : Int := (Nat.toDigits 10 significand).length
  if significand = 0 || digits + exponent < 309 then false
  else if 309 < digits + exponent then true
  else
    let bound := Nat.pow 2 1024 - Nat.pow 2 970
    if 0 ≤ exponent then bound ≤ significand * Nat.pow 10 exponent.toNat
    else bound * Nat.pow 10 exponent.natAbs ≤ significand

/-- The scalar stands for a real number: a decimal that is not too great, or a word for infinity or for no
number. -/
def isReal (s : String) : Bool :=
  s ∈ [".inf", ".Inf", ".INF", "+.inf", "+.Inf", "+.INF", "-.inf", "-.Inf", "-.INF", ".nan", ".NaN", ".NAN"] ||
    isDecimal (match s.toList with
      | '-' :: cs | '+' :: cs => cs
      | cs => cs)
where
  isDecimal (cs : List Char) : Bool :=
    match decimalDigits? cs with
    | none => false
    | some (whole, fraction, rest) =>
      match exponent? rest with
      | none => false
      | some exponent =>
        !isBeyondDouble ((digitsValue? 10 (whole ++ fraction)).getD 0) (exponent - fraction.length)

end SampleLoad.Yaml
