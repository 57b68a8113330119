/-!
Integers of fixed width: the limits of 64-bit ones, and arithmetic of 32-bit ones that notices when a result
leaves the range, or stops at its ends.
-/

namespace SampleLoad

/-- One more than the largest 64-bit number. -/
abbrev wordLimit : Nat := 18446744073709551616

/-- One more than the largest signed 64-bit number. -/
abbrev signedLimit : Nat := 9223372036854775808

/-- The 32-bit integer with a value, if it is in range. -/
def int32OfInt? (n : Int) : Option Int32 :=
  if -2147483648 ≤ n ∧ n ≤ 2147483647 then some (.ofInt n) else none

/-- The sum, if it is in range. -/
def addInRange? (a b : Int32) : Option Int32 := int32OfInt? (a.toInt + b.toInt)

/-- The sum, or the end of the range that it passes. -/
def addSaturating (a b : Int32) : Int32 :=
  let sum := a.toInt + b.toInt
  if sum < -2147483648 then .minValue else if 2147483647 < sum then .maxValue else .ofInt sum

end SampleLoad
