import SampleLoad.Number.Binary

/-!
The shortest decimal of a floating point number. A decimal reads back as a number when it lies in the
interval of reals that round to it; of the decimals with the fewest digits that do, the nearest one is
taken. Everything is exact arithmetic on natural numbers: a binary magnitude and a point of a decimal
grid are compared by cross multiplication.
-/

namespace SampleLoad

/-- The decimal `0.d₁d₂… * 10 ^ (exponent + 1)`, that is `d₁.d₂… * 10 ^ exponent`. The digits are those of
`significand`, whose last digit is not zero unless it is zero itself. -/
structure Decimal where
  significand : Nat
  exponent : Int
  deriving DecidableEq

namespace Decimal

/-- The digits of the significand, first one first. -/
def digits (d : Decimal) : List Char := Nat.toDigits 10 d.significand

end Decimal

namespace Magnitude

/-- Twice the magnitude's exponent base: `quarters` counts in units of a quarter of the last binary
place, so that the ends of the rounding interval are whole. -/
def quarters (m : Magnitude) : Nat := 4 * m.coefficient

/-- Lower end of the interval of reals that round to the magnitude, in quarters. -/
def lowerQuarters (m : Magnitude) : Nat := m.quarters - (if m.narrowBelow then 1 else 2)

/-- Upper end of the interval of reals that round to the magnitude, in quarters. -/
def upperQuarters (m : Magnitude) : Nat := m.quarters + 2

/-- A quarter of the last binary place is `2 ^ (exponent - 2)`; as a fraction, numerator first. -/
def quarterUnit (m : Magnitude) : Nat × Nat :=
  (Nat.pow 2 (m.exponent - 2).toNat, Nat.pow 2 (2 - m.exponent).toNat)

/-- The largest `e` with `10 ^ e` at most the magnitude, which is not zero. The first estimate, from the
number of binary digits, is `e` or `e - 1`. -/
def decimalExponent (m : Magnitude) : Int :=
  let estimate := ((m.coefficient.log2 : Int) + m.exponent) * 30102999566398 / 100000000000000
  let next := estimate + 1
  let value := m.quarters * m.quarterUnit.1 * Nat.pow 10 (-next).toNat
  let bound := m.quarterUnit.2 * Nat.pow 10 next.toNat
  if bound ≤ value then next else estimate

/-- The two neighbours of the magnitude on the grid of multiples of `10 ^ place` that lie in the rounding
interval: the nearer one, the even one on a tie. -/
def nearestOnGrid? (m : Magnitude) (place : Int) : Option Nat :=
  let (num, den) := m.quarterUnit
  let unit := num * Nat.pow 10 (-place).toNat
  let step := den * Nat.pow 10 place.toNat
  let value := m.quarters * unit
  let below := value / step
  let above := below + 1
  let within (k : Nat) : Bool :=
    if m.coefficient % 2 = 0 then m.lowerQuarters * unit ≤ k * step && k * step ≤ m.upperQuarters * unit
    else m.lowerQuarters * unit < k * step && k * step < m.upperQuarters * unit
  match within below && below ≠ 0, within above with
  | false, false => none
  | true, false => some below
  | false, true => some above
  | true, true =>
    let down := value - below * step
    let up := above * step - value
    some (if down < up || down = up && below % 2 = 0 then below else above)

/-- Removes the zeros at the end of a grid point; `fuel` bounds their number. -/
def dropZeros : (fuel : Nat) → Nat → Nat
  | 0, n => n
  | fuel + 1, n => if n ≠ 0 && n % 10 = 0 then dropZeros fuel (n / 10) else n

/-- Tries grids of one more digit each time, starting with `digits` of them. -/
def shortestFrom (m : Magnitude) (top : Int) : (fuel digits : Nat) → Decimal
  | 0, digits => ⟨m.coefficient, top + digits⟩
  | fuel + 1, digits =>
    match m.nearestOnGrid? (top - digits + 1) with
    | none => shortestFrom m top fuel (digits + 1)
    | some point =>
      let carried := if Nat.pow 10 digits ≤ point then 1 else 0
      ⟨dropZeros digits point, top + carried⟩

/-- The shortest decimal that reads back as the magnitude. Seventeen digits always suffice for 64-bit
numbers. -/
def shortest (m : Magnitude) : Decimal :=
  if m.coefficient = 0 then ⟨0, 0⟩ else m.shortestFrom m.decimalExponent 17 1

end Magnitude

/-- Where a decimal is written positionally: exponents from `leastPositional` on and below
`endPositional`; otherwise with an exponent after `e`. -/
structure DecimalLayout where
  leastPositional : Int
  endPositional : Int

namespace DecimalLayout

/-- Numbers in request bodies are positional from `0.00001` on and below ten to the sixteenth. -/
def body : DecimalLayout := ⟨-5, 16⟩

/-- Writes a decimal, at least one digit on either side of a positional point. -/
def write (layout : DecimalLayout) (d : Decimal) : String :=
  let digits := d.digits
  if layout.leastPositional ≤ d.exponent && d.exponent < layout.endPositional then
    if d.exponent < 0 then
      "0." ++ String.ofList (List.replicate (-d.exponent - 1).toNat '0' ++ digits)
    else
      let whole := d.exponent.toNat + 1
      let padded := digits ++ List.replicate (whole - digits.length) '0'
      let fraction := digits.drop whole
      String.ofList (padded.take whole) ++ "." ++
        (if fraction.isEmpty then "0" else String.ofList fraction)
  else
    let mark := if d.exponent < 0 then "e-" else "e+"
    let mantissa := match digits with
      | [] => ""
      | [c] => String.ofList [c]
      | c :: rest => String.ofList (c :: '.' :: rest)
    mantissa ++ mark ++ toString d.exponent.natAbs

end DecimalLayout

/-- The body text of a finite number. -/
def Double.decimalText (d : Double) : String :=
  (if d.isNegative then "-" else "") ++ DecimalLayout.body.write d.magnitude.shortest

/-- The body text of a finite number. -/
def Single.decimalText (s : Single) : String :=
  (if s.isNegative then "-" else "") ++ DecimalLayout.body.write s.magnitude.shortest

/-- The name of a number that is not finite. -/
def Double.specialName (d : Double) : String :=
  if d.isNaN then "NaN" else if d.isNegative then "-inf" else "inf"

end SampleLoad
