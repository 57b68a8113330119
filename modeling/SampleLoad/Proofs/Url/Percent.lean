import Mathlib.Tactic.IntervalCases
import SampleLoad.Url.Percent

/-!
Percent encoding read back. If the percent sign is encoded itself, no kept character can begin an encoded byte, so
decoding gives the bytes of the text; and a character that is to be encoded does not occur in the result, unless it
is one of those that encoding is made of. Main statement: `Percent.decode_encode`.
-/

namespace SampleLoad.Percent

/-! ### Bytes -/

/-- The characters of encoded bytes. -/
def isEncoding (c : Char) : Bool := c = '%' || c.isDigit || ('A' ≤ c && c ≤ 'F')

theorem hexDigitValue?_upperHexDigit (n : Nat) : hexDigitValue? (upperHexDigit n) = some (n % 16) := by
  have hn : n % 16 < 16 := Nat.mod_lt _ (by decide)
  rw [upperHexDigit]
  generalize n % 16 = digit at *
  interval_cases digit <;> rfl

theorem upperHexDigit_isEncoding (n : Nat) : isEncoding (upperHexDigit n) = true := by
  have hn : n % 16 < 16 := Nat.mod_lt _ (by decide)
  rw [upperHexDigit]
  generalize n % 16 = digit at *
  interval_cases digit <;> rfl

theorem decode_encodeByte (b : UInt8) (rest : List Char) : decode (encodeByte b ++ rest) = b :: decode rest := by
  have hb := b.toNat_lt
  have hsplit : b.toNat / 16 % 16 * 16 + b.toNat % 16 = b.toNat := by omega
  simp only [encodeByte, List.cons_append, List.nil_append, decode, hexDigitValue?_upperHexDigit, hsplit,
    UInt8.ofNat_toNat]

theorem decode_encodeBytes (bytes : List UInt8) (rest : List Char) :
    decode (bytes.flatMap encodeByte ++ rest) = bytes ++ decode rest := by
  induction bytes with
  | nil => rfl
  | cons b bytes ih => rw [List.flatMap_cons, List.append_assoc, decode_encodeByte, ih, List.cons_append]

theorem encodeByte_isEncoding {b : UInt8} {c : Char} (h : c ∈ encodeByte b) : isEncoding c = true := by
  rcases List.mem_cons.mp h with rfl | h
  · rfl
  · rcases List.mem_cons.mp h with rfl | h
    · exact upperHexDigit_isEncoding _
    · rw [List.mem_singleton.mp h]
      exact upperHexDigit_isEncoding _

/-! ### Texts -/

variable {reserved : Char → Bool}

theorem decode_cons {c : Char} (h : c ≠ '%') (rest : List Char) :
    decode (c :: rest) = String.utf8EncodeChar c ++ decode rest := by
  rw [decode]
  intro a b rest' hc
  exact absurd hc h

theorem decode_encodeChar (hpercent : reserved '%' = true) (c : Char) (rest : List Char) :
    decode (encodeChar reserved c ++ rest) = String.utf8EncodeChar c ++ decode rest := by
  rw [encodeChar]
  split
  · exact decode_encodeBytes _ rest
  · rename_i hkept
    refine decode_cons ?_ rest
    rintro rfl
    rw [hpercent, Bool.or_true] at hkept
    exact hkept rfl

/-- An encoded text decodes to its bytes. -/
theorem decode_encode (hpercent : reserved '%' = true) (cs : List Char) :
    decode (encode reserved cs) = cs.flatMap String.utf8EncodeChar := by
  induction cs with
  | nil => rfl
  | cons c rest ih =>
      have hfirst := decode_encodeChar hpercent c (encode reserved rest)
      rw [ih] at hfirst
      exact hfirst

theorem length_decode_le (cs : List Char) : (decode cs).length ≤ (cs.flatMap String.utf8EncodeChar).length := by
  have hpercent : '%'.utf8Size = 1 := rfl
  fun_induction decode cs with
  | case1 a b rest high low ha hb ih =>
      simp only [List.length_cons, List.flatMap_cons, List.length_append, String.length_utf8EncodeChar] at ih ⊢
      omega
  | case2 a b rest hnone ih =>
      simp only [List.length_cons, List.flatMap_cons, List.length_append, String.length_utf8EncodeChar] at ih ⊢
      omega
  | case3 c rest hnot ih =>
      rw [List.length_append, List.flatMap_cons, List.length_append]
      exact Nat.add_le_add_left ih _
  | case4 => exact Nat.le_refl 0

/-- What is to be encoded does not stay. -/
theorem not_mem_encode {c : Char} (hreserved : reserved c = true) (hencoding : isEncoding c = false)
    (cs : List Char) : c ∉ encode reserved cs := by
  intro h
  obtain ⟨d, -, hd⟩ := List.mem_flatMap.mp h
  rw [encodeChar] at hd
  split at hd
  · obtain ⟨b, -, hb⟩ := List.mem_flatMap.mp hd
    rw [encodeByte_isEncoding hb] at hencoding
    cases hencoding
  · rename_i hkept
    rw [← List.mem_singleton.mp hd, hreserved, Bool.or_true] at hkept
    exact hkept rfl

end SampleLoad.Percent
