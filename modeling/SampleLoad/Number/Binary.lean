/-!
Binary floating point as bit patterns. A `Double` has one sign bit, eleven exponent bits and 52
fraction bits; a `Single` has eight exponent bits and 23 fraction bits. Both are kept as their bits:
two numbers are the same value of the type exactly when the bits agree, so the sign of zero and the
payload of a NaN are never lost.
-/

namespace SampleLoad

/-- A 64-bit floating point number, by its bits. -/
structure Double where
  bits : UInt64
  deriving DecidableEq, Inhabited

/-- A 32-bit floating point number, by its bits. -/
structure Single where
  bits : UInt32
  deriving DecidableEq, Inhabited

/-- The magnitude of a finite number: `coefficient * 2 ^ exponent`. The numbers just below a power of
two lie half as far away as those just above it; `narrowBelow` marks such a power. -/
structure Magnitude where
  coefficient : Nat
  exponent : Int
  narrowBelow : Bool
  deriving DecidableEq

/-- The magnitude that an exponent field and a fraction field stand for, in a format with so many
fractions whose least exponent is `least`. -/
def Magnitude.ofFields (fractions : Nat) (least : Int) (field fraction : Nat) : Magnitude :=
  if field = 0 then ⟨fraction, least, false⟩
  else ⟨fractions + fraction, least + (field - 1 : Nat), fraction = 0 && 1 < field⟩

namespace Double

/-- The number of fractions, which have 52 bits. -/
abbrev fractions : Nat := 4503599627370496

def isNegative (d : Double) : Bool := d.bits.toNat >>> 63 = 1
def exponentField (d : Double) : Nat := (d.bits.toNat >>> 52) % 2048
def fractionField (d : Double) : Nat := d.bits.toNat % fractions

/-- Neither infinite nor a NaN. -/
def isFinite (d : Double) : Bool := d.exponentField < 2047
def isNaN (d : Double) : Bool := d.exponentField = 2047 && d.fractionField ≠ 0
def isZero (d : Double) : Bool := d.exponentField = 0 && d.fractionField = 0

/-- The magnitude, for a finite number. -/
def magnitude (d : Double) : Magnitude :=
  .ofFields fractions (-1074) d.exponentField d.fractionField

/-- Equality of numbers: the two zeros are equal, a NaN equals nothing. -/
def numericEq (a b : Double) : Bool :=
  !a.isNaN && !b.isNaN && (a.bits = b.bits || a.isZero && b.isZero)

/-- The number `k * 2 ^ (-53)`, for `k < 2 ^ 53`. -/
def ofUnitFraction (k : Nat) : Double :=
  if k = 0 then ⟨0⟩
  else
    let top := k.log2
    ⟨.ofNat ((970 + top) * fractions + (k <<< (52 - top) - fractions))⟩

end Double

namespace Single

/-- The number of fractions, which have 23 bits. -/
abbrev fractions : Nat := 8388608

def isNegative (s : Single) : Bool := s.bits.toNat >>> 31 = 1
def exponentField (s : Single) : Nat := (s.bits.toNat >>> 23) % 256
def fractionField (s : Single) : Nat := s.bits.toNat % fractions

/-- Neither infinite nor a NaN. -/
def isFinite (s : Single) : Bool := s.exponentField < 255
def isNaN (s : Single) : Bool := s.exponentField = 255 && s.fractionField ≠ 0
def isZero (s : Single) : Bool := s.exponentField = 0 && s.fractionField = 0

/-- The magnitude, for a finite number. -/
def magnitude (s : Single) : Magnitude :=
  .ofFields fractions (-149) s.exponentField s.fractionField

/-- Equality of numbers: the two zeros are equal, a NaN equals nothing. -/
def numericEq (a b : Single) : Bool :=
  !a.isNaN && !b.isNaN && (a.bits = b.bits || a.isZero && b.isZero)

/-- The number `k * 2 ^ (-24)`, for `k < 2 ^ 24`. -/
def ofUnitFraction (k : Nat) : Single :=
  if k = 0 then ⟨0⟩
  else
    let top := k.log2
    ⟨.ofNat ((103 + top) * fractions + (k <<< (23 - top) - fractions))⟩

/-- The exponent and fraction fields of the 64-bit number with the same value. A subnormal 32-bit
number is a normal 64-bit one, so its leading bit moves from the fraction into the exponent. -/
def widenedFields (field fraction : Nat) : Nat × Nat :=
  if field = 255 then (2047, fraction <<< 29)
  else if field = 0 then
    if fraction = 0 then (0, 0)
    else
      let top := fraction.log2
      (874 + top, fraction <<< (52 - top) - Double.fractions)
  else (896 + field, fraction <<< 29)

/-- The 64-bit number with the same value. -/
def widen (s : Single) : Double :=
  let sign := if s.isNegative then 9223372036854775808 else 0
  let (field, fraction) := widenedFields s.exponentField s.fractionField
  ⟨.ofNat (sign + field * Double.fractions + fraction)⟩

end Single

end SampleLoad
