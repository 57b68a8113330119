import Mathlib.Algebra.Order.Field.Power
import Mathlib.Tactic.FieldSimp
import Mathlib.Tactic.NormNum
import Mathlib.Tactic.Positivity
import Mathlib.Tactic.Ring
import SampleLoad.Number.Binary

/-!
What the bits of a unit fraction stand for. The value of a finite number is a rational; that of
`ofUnitFraction k` is `k` over a power of two, exactly, so it lies between zero and one. The leading bit of
`k` goes into the exponent field and the bits below it are moved up to fill the fraction field.
-/

namespace SampleLoad

/-- The leading bit of a number moved up to bit `places`. -/
theorem shiftLeft_log2 {k places : Nat} (hk : k ≠ 0) (hplaces : k.log2 ≤ places) :
    2 ^ places ≤ k <<< (places - k.log2) ∧ k <<< (places - k.log2) < 2 * 2 ^ places := by
  have hlow : 2 ^ k.log2 ≤ k := Nat.log2_self_le hk
  have hhigh : k < 2 ^ (k.log2 + 1) := Nat.lt_log2_self
  have hsum : 2 ^ places = 2 ^ k.log2 * 2 ^ (places - k.log2) := by
    rw [← pow_add, Nat.add_sub_cancel' hplaces]
  rw [Nat.shiftLeft_eq, hsum]
  constructor
  · exact Nat.mul_le_mul_right _ hlow
  · calc k * 2 ^ (places - k.log2)
        < 2 ^ (k.log2 + 1) * 2 ^ (places - k.log2) := Nat.mul_lt_mul_of_pos_right hhigh (by positivity)
      _ = 2 * (2 ^ k.log2 * 2 ^ (places - k.log2)) := by ring

namespace Magnitude

/-- The rational number that a magnitude is. -/
def value (m : Magnitude) : ℚ := m.coefficient * (2 : ℚ) ^ m.exponent

/-- A normal number whose fraction field holds the bits of `k` below the leading one. -/
theorem value_ofFields {k places field fraction : Nat} {least : Int} (hk : k ≠ 0) (hplaces : k.log2 ≤ places)
    (hfield : field ≠ 0) (hfraction : fraction = k <<< (places - k.log2) - 2 ^ places) :
    (ofFields (2 ^ places) least field fraction).value =
      k * (2 : ℚ) ^ (least + field - 1 + places - k.log2) := by
  obtain ⟨hlow, -⟩ := shiftLeft_log2 hk hplaces
  have hsum : 2 ^ places + fraction = k * 2 ^ (places - k.log2) := by
    rw [hfraction, Nat.add_sub_cancel' hlow, Nat.shiftLeft_eq]
  have hsplit : least + (field : Int) - 1 + places - k.log2 =
      ((places - k.log2 : Nat) : Int) + (least + (field - 1 : Nat)) := by
    omega
  rw [value, ofFields, if_neg hfield, hsum, hsplit,
    zpow_add₀ two_ne_zero ((places - k.log2 : Nat) : Int), zpow_natCast]
  push_cast
  ring

end Magnitude

namespace Double

def value (d : Double) : ℚ := (if d.isNegative then -1 else 1) * d.magnitude.value

/-- The exponent field of a number that is put together from its fields. -/
theorem exponentField_ofNat {sign field fraction : Nat} (hsign : sign = 0 ∨ sign = 9223372036854775808)
    (hfield : field < 2048) (hfraction : fraction < fractions) :
    (Double.mk (.ofNat (sign + field * fractions + fraction))).exponentField = field := by
  simp only [fractions] at hfraction
  have hbits : (UInt64.ofNat (sign + field * fractions + fraction)).toNat =
      sign + field * fractions + fraction := by
    apply UInt64.toNat_ofNat_of_lt'
    simp only [fractions, UInt64.size]
    omega
  simp only [exponentField, hbits, Nat.shiftRight_eq_div_pow, fractions]
  omega

section UnitFraction

variable {k : Nat} (hk : k < 9007199254740992)

include hk

/-- The fields of a unit fraction. -/
theorem ofUnitFraction_fields (hzero : k ≠ 0) :
    (ofUnitFraction k).isNegative = false ∧ (ofUnitFraction k).exponentField = 970 + k.log2 ∧
      (ofUnitFraction k).fractionField = k <<< (52 - k.log2) - fractions := by
  have htop : k.log2 ≤ 52 := Nat.lt_succ_iff.mp ((Nat.log2_lt hzero).mpr hk)
  obtain ⟨hlow, hhigh⟩ := shiftLeft_log2 hzero htop
  have hbits : (ofUnitFraction k).bits.toNat = (970 + k.log2) * fractions + (k <<< (52 - k.log2) - fractions) := by
    rw [ofUnitFraction, if_neg hzero]
    apply UInt64.toNat_ofNat_of_lt'
    simp only [fractions, UInt64.size] at *
    omega
  simp only [isNegative, exponentField, fractionField, hbits, Nat.shiftRight_eq_div_pow, fractions]
  refine ⟨?_, ?_, ?_⟩
  · simp only [decide_eq_false_iff_not]
    omega
  · omega
  · omega

theorem ofUnitFraction_isFinite : (ofUnitFraction k).isFinite := by
  by_cases hzero : k = 0
  · subst hzero
    decide
  · have htop : k.log2 ≤ 52 := Nat.lt_succ_iff.mp ((Nat.log2_lt hzero).mpr hk)
    rw [isFinite, (ofUnitFraction_fields hk hzero).2.1]
    simp only [decide_eq_true_eq]
    omega

theorem value_ofUnitFraction : (ofUnitFraction k).value = k / 9007199254740992 := by
  by_cases hzero : k = 0
  · subst hzero
    have hmagnitude : (ofUnitFraction 0).magnitude = ⟨0, -1074, false⟩ := by decide
    simp [value, Magnitude.value, hmagnitude]
  · have htop : k.log2 ≤ 52 := Nat.lt_succ_iff.mp ((Nat.log2_lt hzero).mpr hk)
    obtain ⟨hsign, hexponent, hfraction⟩ := ofUnitFraction_fields hk hzero
    have hpower : (-1074 : Int) + ((970 + k.log2 : Nat) : Int) - 1 + (52 : Nat) - k.log2 = -53 := by
      push_cast
      omega
    rw [value, hsign, magnitude, hexponent, hfraction,
      show fractions = 2 ^ 52 from rfl,
      Magnitude.value_ofFields hzero htop (by omega) rfl, hpower]
    norm_num
    ring

/-- A unit fraction lies between zero and one, the one excluded. -/
theorem ofUnitFraction_inUnit : 0 ≤ (ofUnitFraction k).value ∧ (ofUnitFraction k).value < 1 := by
  have hbound : (k : ℚ) < 9007199254740992 := by exact_mod_cast hk
  rw [value_ofUnitFraction hk]
  constructor
  · positivity
  · rw [div_lt_one (by norm_num)]
    exact hbound

end UnitFraction

end Double

namespace Single

def value (s : Single) : ℚ := (if s.isNegative then -1 else 1) * s.magnitude.value

section UnitFraction

variable {k : Nat} (hk : k < 16777216)

include hk

/-- The fields of a unit fraction. -/
theorem ofUnitFraction_fields (hzero : k ≠ 0) :
    (ofUnitFraction k).isNegative = false ∧ (ofUnitFraction k).exponentField = 103 + k.log2 ∧
      (ofUnitFraction k).fractionField = k <<< (23 - k.log2) - fractions := by
  have htop : k.log2 ≤ 23 := Nat.lt_succ_iff.mp ((Nat.log2_lt hzero).mpr hk)
  obtain ⟨hlow, hhigh⟩ := shiftLeft_log2 hzero htop
  have hbits : (ofUnitFraction k).bits.toNat = (103 + k.log2) * fractions + (k <<< (23 - k.log2) - fractions) := by
    rw [ofUnitFraction, if_neg hzero]
    apply UInt32.toNat_ofNat_of_lt'
    simp only [fractions, UInt32.size] at *
    omega
  simp only [isNegative, exponentField, fractionField, hbits, Nat.shiftRight_eq_div_pow, fractions]
  refine ⟨?_, ?_, ?_⟩
  · simp only [decide_eq_false_iff_not]
    omega
  · omega
  · omega

theorem ofUnitFraction_isFinite : (ofUnitFraction k).isFinite := by
  by_cases hzero : k = 0
  · subst hzero
    decide
  · have htop : k.log2 ≤ 23 := Nat.lt_succ_iff.mp ((Nat.log2_lt hzero).mpr hk)
    rw [isFinite, (ofUnitFraction_fields hk hzero).2.1]
    simp only [decide_eq_true_eq]
    omega

theorem value_ofUnitFraction : (ofUnitFraction k).value = k / 16777216 := by
  by_cases hzero : k = 0
  · subst hzero
    have hmagnitude : (ofUnitFraction 0).magnitude = ⟨0, -149, false⟩ := by decide
    simp [value, Magnitude.value, hmagnitude]
  · have htop : k.log2 ≤ 23 := Nat.lt_succ_iff.mp ((Nat.log2_lt hzero).mpr hk)
    obtain ⟨hsign, hexponent, hfraction⟩ := ofUnitFraction_fields hk hzero
    have hpower : (-149 : Int) + ((103 + k.log2 : Nat) : Int) - 1 + (23 : Nat) - k.log2 = -24 := by
      push_cast
      omega
    rw [value, hsign, magnitude, hexponent, hfraction,
      show fractions = 2 ^ 23 from rfl,
      Magnitude.value_ofFields hzero htop (by omega) rfl, hpower]
    norm_num
    ring

/-- A unit fraction lies between zero and one, the one excluded. -/
theorem ofUnitFraction_inUnit : 0 ≤ (ofUnitFraction k).value ∧ (ofUnitFraction k).value < 1 := by
  have hbound : (k : ℚ) < 16777216 := by exact_mod_cast hk
  rw [value_ofUnitFraction hk]
  constructor
  · positivity
  · rw [div_lt_one (by norm_num)]
    exact hbound

end UnitFraction

/-- The fields of a widened number stay within their widths. -/
theorem widenedFields_lt {field fraction : Nat} (hfield : field < 255) (hfraction : fraction < fractions) :
    (widenedFields field fraction).1 < 2047 ∧ (widenedFields field fraction).2 < Double.fractions := by
  simp only [fractions, Double.fractions] at *
  rw [widenedFields, if_neg (by omega)]
  split
  · split
    · exact ⟨by omega, by omega⟩
    · rename_i hzero
      have htop : fraction.log2 ≤ 22 := Nat.lt_succ_iff.mp ((Nat.log2_lt hzero).mpr (by omega))
      obtain ⟨hlow, hhigh⟩ := shiftLeft_log2 hzero (Nat.le_trans htop (by decide : 22 ≤ 52))
      exact ⟨by dsimp only; omega, by dsimp only [Double.fractions]; omega⟩
  · rw [Nat.shiftLeft_eq]
    exact ⟨by dsimp only; omega, by dsimp only; omega⟩

/-- A widened number has the fields that widening gives it. -/
theorem widen_exponentField {s : Single} (hfield : (widenedFields s.exponentField s.fractionField).1 < 2048)
    (hfraction : (widenedFields s.exponentField s.fractionField).2 < Double.fractions) :
    s.widen.exponentField = (widenedFields s.exponentField s.fractionField).1 := by
  have hsign : (if s.isNegative then 9223372036854775808 else 0) = 0 ∨
      (if s.isNegative then 9223372036854775808 else 0) = 9223372036854775808 := by
    cases s.isNegative
    · exact .inl rfl
    · exact .inr rfl
  exact Double.exponentField_ofNat hsign hfield hfraction

theorem fractionField_lt (s : Single) : s.fractionField < fractions := Nat.mod_lt _ (by decide)

theorem widen_isFinite {s : Single} (hfinite : s.isFinite) : s.widen.isFinite := by
  obtain ⟨hexponent, hrest⟩ := widenedFields_lt (of_decide_eq_true hfinite) s.fractionField_lt
  exact decide_eq_true ((widen_exponentField (by omega) hrest).symm ▸ hexponent)

/-- Widening does not make a number finite. -/
theorem isFinite_of_widen {s : Single} (hfinite : s.widen.isFinite) : s.isFinite := by
  refine decide_eq_true (Nat.lt_of_not_le fun hlarge => ?_)
  have hfield : s.exponentField = 255 := Nat.le_antisymm (Nat.le_of_lt_succ (Nat.mod_lt _ (by decide))) hlarge
  have hfraction := s.fractionField_lt
  have hwidened : widenedFields s.exponentField s.fractionField = (2047, s.fractionField <<< 29) :=
    if_pos hfield
  have hexponent := widen_exponentField (s := s) (by rw [hwidened]; exact Nat.lt_succ_self 2047) (by
    rw [hwidened, Nat.shiftLeft_eq]
    simp only [fractions, Double.fractions] at *
    omega)
  rw [hwidened] at hexponent
  exact absurd (of_decide_eq_true hfinite) (by rw [hexponent]; exact Nat.lt_irrefl 2047)

end Single

end SampleLoad
