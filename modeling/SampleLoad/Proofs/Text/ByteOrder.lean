import SampleLoad.Text.Utf8

/-!
The order of texts by their UTF-8 bytes. The first byte of a code point grows with the number of its bytes, and within
them the bits that count more come first. So texts in the order of their characters are in the order of their bytes.
Main statement: `Utf8.bytes_lt_of_lt`.
-/

namespace SampleLoad.Utf8

open String (utf8EncodeChar)

/-- The bytes of a code point: the first tells how many there are, and each of the others holds six bits. -/
inductive Encodes : Nat → List UInt8 → Prop where
  | one {a : Nat} (ha : a < 0x80) : Encodes a [.ofNat a]
  | two {a b : Nat} (hlow : 0x80 ≤ a * 64 + b) (ha : a < 32) (hb : b < 64) :
    Encodes (a * 64 + b) [.ofNat (a + 0xC0), .ofNat (b + 0x80)]
  | three {a b c : Nat} (hlow : 0x800 ≤ a * 4096 + b * 64 + c) (ha : a < 16) (hb : b < 64) (hc : c < 64) :
    Encodes (a * 4096 + b * 64 + c) [.ofNat (a + 0xE0), .ofNat (b + 0x80), .ofNat (c + 0x80)]
  | four {a b c d : Nat} (hlow : 0x10000 ≤ a * 262144 + b * 4096 + c * 64 + d) (ha : a < 8) (hb : b < 64)
    (hc : c < 64) (hd : d < 64) :
    Encodes (a * 262144 + b * 4096 + c * 64 + d)
      [.ofNat (a + 0xF0), .ofNat (b + 0x80), .ofNat (c + 0x80), .ofNat (d + 0x80)]

theorem encodes_char (c : Char) : Encodes c.val.toNat (utf8EncodeChar c) := by
  have hmax : c.val.toNat < 0x110000 := by
    rcases c.valid with hlow | ⟨-, hhigh⟩
    · exact Nat.lt_trans hlow (by decide)
    · exact hhigh
  rw [utf8EncodeChar]
  generalize c.val.toNat = n at *
  split
  · exact .one (by omega)
  split
  · have htwo := @Encodes.two (n / 64 % 32) (n % 64) (by omega) (by omega) (by omega)
    rwa [show n / 64 % 32 * 64 + n % 64 = n by omega] at htwo
  split
  · have hthree := @Encodes.three (n / 4096 % 16) (n / 64 % 64) (n % 64) (by omega) (by omega) (by omega) (by omega)
    rwa [show n / 4096 % 16 * 4096 + n / 64 % 64 * 64 + n % 64 = n by omega] at hthree
  · have hfour := @Encodes.four (n / 262144 % 8) (n / 4096 % 64) (n / 64 % 64) (n % 64) (by omega) (by omega)
      (by omega) (by omega) (by omega)
    rwa [show n / 262144 % 8 * 262144 + n / 4096 % 64 * 4096 + n / 64 % 64 * 64 + n % 64 = n by omega] at hfour

theorem ofNat_lt_iff {m n : Nat} (hm : m < 256) (hn : n < 256) : UInt8.ofNat m < .ofNat n ↔ m < n := by
  rw [UInt8.lt_iff_toNat_lt, UInt8.toNat_ofNat_of_lt' hm, UInt8.toNat_ofNat_of_lt' hn]

theorem ofNat_eq_iff {m n : Nat} (hm : m < 256) (hn : n < 256) : UInt8.ofNat m = .ofNat n ↔ m = n := by
  rw [← UInt8.toNat_inj, UInt8.toNat_ofNat_of_lt' hm, UInt8.toNat_ofNat_of_lt' hn]

/-- Which of two code points is the larger is settled within their bytes, whatever follows. -/
theorem Encodes.append_lt {m n : Nat} {first second : List UInt8} (hm : Encodes m first) (hn : Encodes n second)
    (hlt : m < n) (xs ys : List UInt8) : first ++ xs < second ++ ys := by
  cases hm <;> cases hn <;>
    simp (disch := omega) only [List.cons_append, List.nil_append, List.cons_lt_cons_iff, ofNat_lt_iff,
      ofNat_eq_iff] <;>
    omega

theorem Encodes.nil_lt_append {n : Nat} {bytes : List UInt8} (h : Encodes n bytes) (ys : List UInt8) :
    [] < bytes ++ ys := by
  cases h <;> exact List.nil_lt_cons _ _

theorem encode_lt_of_lt {cs ds : List Char} (h : cs < ds) :
    cs.flatMap utf8EncodeChar < ds.flatMap utf8EncodeChar := by
  induction ds generalizing cs with
  | nil => exact absurd h (List.not_lt_nil cs)
  | cons d ds ih =>
      cases cs with
      | nil => exact (encodes_char d).nil_lt_append _
      | cons c cs =>
          rw [List.flatMap_cons, List.flatMap_cons]
          rcases List.cons_lt_cons_iff.mp h with hlt | ⟨rfl, hrest⟩
          · exact (encodes_char c).append_lt (encodes_char d) hlt _ _
          · exact List.append_left_lt (ih hrest)

def bytes (s : String) : List UInt8 := s.toUTF8.data.toList

theorem bytes_eq (s : String) : bytes s = s.toList.flatMap utf8EncodeChar := by
  obtain ⟨cs, rfl⟩ : ∃ cs, s = String.ofList cs := ⟨s.toList, String.ofList_toList.symm⟩
  rw [String.toList_ofList]
  exact List.toList_data_toByteArray

/-- Texts in order are in the order of their bytes. -/
theorem bytes_lt_of_lt {s t : String} (h : s < t) : bytes s < bytes t := by
  rw [bytes_eq, bytes_eq]
  exact encode_lt_of_lt (String.lt_iff.mp h)

end SampleLoad.Utf8
