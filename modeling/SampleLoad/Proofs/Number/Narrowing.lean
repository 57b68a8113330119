import SampleLoad.Proofs.Number.UnitFraction

/-!
Narrowing a 64-bit number to 32 bits: the nearest 32-bit number, of two that are equally near the even one, and an
infinite number beyond the largest. A number that was widened is narrowed to itself, whether it is normal, subnormal or
a zero of either sign. Main statement: `Single.narrow_widen`.
-/

namespace SampleLoad

/-- The nearest whole number to `n / 2 ^ places`; of two that are equally near, the even one. -/
def shiftRightNearest (n places : Nat) : Nat :=
  let whole := n / 2 ^ places
  let twice := 2 * (n % 2 ^ places)
  if twice < 2 ^ places || (twice = 2 ^ places && whole % 2 = 0) then whole else whole + 1

theorem shiftRightNearest_mul (n places : Nat) : shiftRightNearest (n * 2 ^ places) places = n := by
  have hpos : 0 < 2 ^ places := Nat.two_pow_pos places
  simp only [shiftRightNearest, Nat.mul_div_cancel n hpos, Nat.mul_mod_left, Nat.mul_zero, hpos, decide_true,
    Bool.true_or, if_true]

namespace Double

/-- The number as one of 32 bits. The bits of a magnitude that is rounded follow on those of the next smaller one, so a
fraction that overflows goes into the exponent field. -/
def narrow (d : Double) : Single :=
  let sign := if d.isNegative then 2147483648 else 0
  if d.exponentField = 2047 then
    ⟨.ofNat (sign + 255 * Single.fractions + if d.fractionField = 0 then 0 else d.fractionField >>> 29 ||| 4194304)⟩
  else
    let m := d.magnitude
    let place := max (-149) (m.coefficient.log2 + m.exponent - 23)
    let rounded := shiftRightNearest m.coefficient (place - m.exponent).toNat
    ⟨.ofNat (sign + min (255 * Single.fractions) ((place + 149).toNat * Single.fractions + rounded))⟩

-- The 64-bit number nearest to a tenth, and one that lies halfway between two 32-bit ones.
example : (Double.mk 0x3fb999999999999a).narrow = ⟨0x3dcccccd⟩ ∧
    (Double.mk 0x3ff0000010000000).narrow = ⟨0x3f800000⟩ := by
  decide +kernel

/-- The fields of a number that is put together from them. -/
theorem fields_ofNat (negative : Bool) {field fraction : Nat} (hfield : field < 2048)
    (hfraction : fraction < fractions) :
    let d := Double.mk (.ofNat ((if negative then 9223372036854775808 else 0) + field * fractions + fraction))
    d.isNegative = negative ∧ d.exponentField = field ∧ d.fractionField = fraction := by
  intro d
  simp only [fractions] at hfraction
  have hbits : d.bits.toNat = (if negative then 9223372036854775808 else 0) + field * fractions + fraction := by
    apply UInt64.toNat_ofNat_of_lt'
    simp only [fractions, UInt64.size]
    split <;> omega
  simp only [isNegative, exponentField, fractionField, hbits, Nat.shiftRight_eq_div_pow, fractions]
  refine ⟨?_, ?_, ?_⟩
  · cases negative
    · simp only [Bool.false_eq_true, if_false, decide_eq_false_iff_not]
      omega
    · simp only [if_true, decide_eq_true_eq]
      omega
  · split <;> omega
  · split <;> omega

/-- The magnitude of a number whose exponent field is not zero. -/
theorem magnitude_of_normal {d : Double} (h : d.exponentField ≠ 0) :
    d.magnitude.coefficient = fractions + d.fractionField ∧
      d.magnitude.exponent = (-1074 : Int) + (d.exponentField - 1 : Nat) := by
  rw [magnitude, Magnitude.ofFields, if_neg h]
  exact ⟨rfl, rfl⟩

/-- A magnitude that can be moved down to the place of a 32-bit number without a rest is narrowed to just that. -/
theorem narrow_eq {d : Double} (hfinite : d.exponentField ≠ 2047) {n places : Nat} {exponent : Int}
    (hcoefficient : d.magnitude.coefficient = n * 2 ^ places) (hexponent : d.magnitude.exponent = exponent)
    (hplace : max (-149) ((n * 2 ^ places).log2 + exponent - 23) = exponent + places)
    (hbits : (exponent + places + 149).toNat * Single.fractions + n ≤ 255 * Single.fractions) :
    d.narrow = ⟨.ofNat ((if d.isNegative then 2147483648 else 0) +
      ((exponent + places + 149).toNat * Single.fractions + n))⟩ := by
  have hplaces : (exponent + (places : Int) - exponent).toNat = places := by omega
  simp only [narrow, if_neg hfinite, hcoefficient, hexponent, hplace, hplaces, shiftRightNearest_mul,
    Nat.min_eq_right hbits]

end Double

namespace Single

/-- The fields of a number make up its bits. -/
theorem ofNat_fields (s : Single) :
    Single.mk (.ofNat ((if s.isNegative then 2147483648 else 0) +
      (s.exponentField * fractions + s.fractionField))) = s := by
  obtain ⟨bits⟩ := s
  have hbound : bits.toNat < 4294967296 := bits.toNat_lt
  have hfields : (if (Single.mk bits).isNegative then 2147483648 else 0) +
      ((Single.mk bits).exponentField * fractions + (Single.mk bits).fractionField) = bits.toNat := by
    simp only [isNegative, exponentField, fractionField, fractions, Nat.shiftRight_eq_div_pow, decide_eq_true_eq]
    split <;> omega
  rw [hfields, UInt32.ofNat_toNat]

section Widening

variable {s : Single} (hfinite : s.isFinite = true)

include hfinite

theorem widen_fields :
    s.widen.isNegative = s.isNegative ∧
      s.widen.exponentField = (widenedFields s.exponentField s.fractionField).1 ∧
      s.widen.fractionField = (widenedFields s.exponentField s.fractionField).2 := by
  obtain ⟨hfield, hfraction⟩ := widenedFields_lt (of_decide_eq_true hfinite) s.fractionField_lt
  exact Double.fields_ofNat s.isNegative (Nat.lt_succ_of_lt hfield) hfraction

/-- A normal number is moved down by the 29 places that it was moved up. -/
theorem narrow_widen_normal (hnormal : s.exponentField ≠ 0) : s.widen.narrow = s := by
  obtain ⟨hsign, hfield, hfraction⟩ := widen_fields hfinite
  have hexponent : s.exponentField < 255 := of_decide_eq_true hfinite
  have hbound := s.fractionField_lt
  have hwidened : widenedFields s.exponentField s.fractionField = (896 + s.exponentField, s.fractionField <<< 29) := by
    rw [widenedFields, if_neg (by omega), if_neg hnormal]
  rw [hwidened] at hfield hfraction
  dsimp only at hfield hfraction
  obtain ⟨hcoefficient, hplace⟩ := Double.magnitude_of_normal (d := s.widen) (by omega)
  have hscaled : s.widen.magnitude.coefficient = (fractions + s.fractionField) * 2 ^ 29 := by
    rw [hcoefficient, hfraction, Nat.shiftLeft_eq]
    simp only [fractions, Double.fractions]
    omega
  have hlog : ((fractions + s.fractionField) * 2 ^ 29).log2 = 52 := by
    rw [Nat.log2_eq_iff (by simp only [fractions]; omega)]
    simp only [fractions] at *
    omega
  have hnumber : (-1074 : Int) + (s.widen.exponentField - 1 : Nat) = (s.exponentField : Int) - 179 := by omega
  rw [Double.narrow_eq (by omega) hscaled (hplace.trans hnumber) (by omega)
    (by simp only [fractions] at *; omega), hsign]
  have hbits : ((s.exponentField : Int) - 179 + (29 : Nat) + 149).toNat * fractions + (fractions + s.fractionField) =
      s.exponentField * fractions + s.fractionField := by
    simp only [fractions]
    omega
  rw [hbits, ofNat_fields]

/-- The leading bit of a subnormal number goes back from the exponent into the fraction. -/
theorem narrow_widen_subnormal (hsubnormal : s.exponentField = 0) (hnonzero : s.fractionField ≠ 0) :
    s.widen.narrow = s := by
  obtain ⟨hsign, hfield, hfraction⟩ := widen_fields hfinite
  have hbound := s.fractionField_lt
  have htop : s.fractionField.log2 ≤ 22 := Nat.lt_succ_iff.mp ((Nat.log2_lt hnonzero).mpr hbound)
  have hwidened : widenedFields s.exponentField s.fractionField =
      (874 + s.fractionField.log2, s.fractionField <<< (52 - s.fractionField.log2) - Double.fractions) := by
    rw [widenedFields, if_neg (by omega), if_pos hsubnormal, if_neg hnonzero]
  rw [hwidened] at hfield hfraction
  dsimp only at hfield hfraction
  obtain ⟨hlow, hhigh⟩ := shiftLeft_log2 hnonzero (Nat.le_trans htop (by decide : 22 ≤ 52))
  obtain ⟨hcoefficient, hplace⟩ := Double.magnitude_of_normal (d := s.widen) (by omega)
  have hscaled : s.widen.magnitude.coefficient = s.fractionField * 2 ^ (52 - s.fractionField.log2) := by
    rw [hcoefficient, hfraction, ← Nat.shiftLeft_eq]
    exact Nat.add_sub_cancel' hlow
  have hlog : (s.fractionField * 2 ^ (52 - s.fractionField.log2)).log2 = 52 := by
    rw [← Nat.shiftLeft_eq, Nat.log2_eq_iff (by omega)]
    exact ⟨hlow, by omega⟩
  have hnumber : (-1074 : Int) + (s.widen.exponentField - 1 : Nat) = (s.fractionField.log2 : Int) - 201 := by omega
  have hplaces : ((s.fractionField.log2 : Int) - 201 + (52 - s.fractionField.log2 : Nat) + 149).toNat = 0 := by omega
  rw [Double.narrow_eq (by omega) hscaled (hplace.trans hnumber) (by omega)
    (by rw [hplaces]; simp only [fractions] at *; omega), hsign, hplaces]
  conv_rhs => rw [← s.ofNat_fields, hsubnormal]

/-- Widening is undone by narrowing, bit for bit. -/
theorem narrow_widen : s.widen.narrow = s := by
  by_cases hnormal : s.exponentField = 0
  · by_cases hzero : s.fractionField = 0
    · obtain ⟨hsign, hfield, hfraction⟩ := widen_fields hfinite
      rw [hnormal, hzero] at hfield hfraction
      have hmagnitude : s.widen.magnitude = ⟨0, -1074, false⟩ := by
        rw [Double.magnitude, hfield, hfraction]
        rfl
      have hexponent : s.widen.exponentField ≠ 2047 := by
        rw [hfield]
        decide
      have hscaled : s.widen.magnitude.coefficient = 0 * 2 ^ 925 := by rw [hmagnitude, Nat.zero_mul]
      rw [Double.narrow_eq hexponent hscaled (congrArg Magnitude.exponent hmagnitude) (by rw [Nat.zero_mul]; decide)
        (by decide), hsign]
      conv_rhs => rw [← s.ofNat_fields, hnormal, hzero]
      rfl
    · exact narrow_widen_subnormal hfinite hnormal hzero
  · exact narrow_widen_normal hfinite hnormal

end Widening

end Single

end SampleLoad
