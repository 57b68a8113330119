import SampleLoad.Web.Base64

/-!
Base64 both ways: the text of some bytes stands for those bytes. Letters are told from the equals signs that pad
the last group, so a group is read as it was written. Main statement: `Base64.decode?_encode`.
-/

namespace SampleLoad.Base64

theorem sextet?_letter : ∀ n < 64, sextet? (letter n) = some n := by decide

theorem letter_ne_padding : ∀ n < 64, letter n ≠ '=' := by decide

/-- A group that ends in a letter is a whole one. -/
theorem decode?_group {n : Nat} (hn : n < 16777216) (rest : List Char) :
    decode? (letter (n / 262144) :: letter (n / 4096 % 64) :: letter (n / 64 % 64) :: letter (n % 64) :: rest) =
      (decode? rest).map fun bytes =>
        UInt8.ofNat (n / 65536) :: UInt8.ofNat (n / 256 % 256) :: UInt8.ofNat (n % 256) :: bytes := by
  have hlast := letter_ne_padding (n % 64) (Nat.mod_lt _ (by decide))
  have hjoin : ((n / 262144 * 64 + n / 4096 % 64) * 64 + n / 64 % 64) * 64 + n % 64 = n := by omega
  rw [decode?]
  · rw [sextet?_letter _ (by omega), sextet?_letter _ (by omega), sextet?_letter _ (by omega),
      sextet?_letter _ (by omega)]
    simp only [Option.bind_eq_bind, Option.bind_some, hjoin]
    cases decode? rest <;> rfl
  · intro _ hpadding
    exact absurd hpadding hlast
  · intro hpadding
    exact absurd hpadding hlast

theorem ofNat_of_toNat (b : UInt8) {n : Nat} (h : n = b.toNat) : UInt8.ofNat n = b := by
  rw [h, UInt8.ofNat_toNat]

/-- The text of some bytes is read as the bytes. -/
theorem decode?_encode (bytes : List UInt8) : decode? (encode bytes) = some bytes := by
  induction bytes using encode.induct with
  | case1 a b c rest ih =>
      have ha := a.toNat_lt
      have hb := b.toNat_lt
      have hc := c.toNat_lt
      rw [encode, decode?_group (by omega), ih]
      simp only [Option.map_some]
      rw [ofNat_of_toNat a (by omega), ofNat_of_toNat b (by omega), ofNat_of_toNat c (by omega)]
  | case2 a b =>
      have ha := a.toNat_lt
      have hb := b.toNat_lt
      rw [encode, decode?]
      · rw [sextet?_letter _ (by omega), sextet?_letter _ (by omega), sextet?_letter _ (by omega)]
        simp only [Option.bind_eq_bind, Option.bind_some]
        rw [ofNat_of_toNat a (by omega), ofNat_of_toNat b (by omega)]
      · exact letter_ne_padding _ (Nat.mod_lt _ (by decide))
  | case3 a =>
      have ha := a.toNat_lt
      rw [encode, decode?, sextet?_letter _ (by omega), sextet?_letter _ (by omega)]
      simp only [Option.bind_eq_bind, Option.bind_some]
      rw [ofNat_of_toNat a (by omega)]
  | case4 => rfl

end SampleLoad.Base64
