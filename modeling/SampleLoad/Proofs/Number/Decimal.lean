import SampleLoad.Number.Reader

/-!
What the reader of whole numbers reads. A numeral is one digit or more, leading zeros included, with or without a plus
sign in front, and stands for the value of its digits. Exactly the numerals of numbers below the limit are read. Main
statement: `readNat_eq_ok_iff`.
-/

namespace SampleLoad

/-- One decimal digit or more, which stand for a number. -/
structure DigitsOf (n : Nat) (digits : List Char) : Prop where
  ne_nil : digits ≠ []
  isDigit : ∀ c ∈ digits, c.isDigit
  value : Nat.ofDigitChars 10 digits 0 = n

/-- Digits that stand for a number, with or without a plus sign in front. -/
def NumeralOf (n : Nat) (cs : List Char) : Prop :=
  ∃ sign digits, cs = sign ++ digits ∧ (sign = [] ∨ sign = ['+']) ∧ DigitsOf n digits

theorem digitValue?_of_isDigit {c : Char} (h : c.isDigit) : digitValue? c = some (c.toNat - '0'.toNat) := if_pos h

theorem digitValue?_of_not_isDigit {c : Char} (h : ¬c.isDigit) : digitValue? c = none := if_neg h

/-- Digits do not make a number smaller. -/
theorem le_ofDigitChars (value : Nat) (cs : List Char) : value ≤ Nat.ofDigitChars 10 cs value := by
  induction cs generalizing value with
  | nil => exact Nat.le_refl value
  | cons c rest ih =>
      rw [Nat.ofDigitChars_cons]
      exact Nat.le_trans (by omega) (ih _)

/-- Once the number is not below the limit any more, further digits do not help. -/
theorem readDigits_eq_ok_iff {limit value : Nat} (hvalue : value < limit) (cs : List Char) (n : Nat) :
    readDigits limit value cs = .ok n ↔
      (∀ c ∈ cs, c.isDigit) ∧ Nat.ofDigitChars 10 cs value = n ∧ n < limit := by
  induction cs generalizing value with
  | nil =>
      rw [readDigits, Nat.ofDigitChars_nil, Except.ok.injEq]
      constructor
      · rintro rfl
        exact ⟨nofun, rfl, hvalue⟩
      · rintro ⟨-, hn, -⟩
        exact hn
  | cons c rest ih =>
      rw [readDigits, List.forall_mem_cons, Nat.ofDigitChars_cons, Nat.mul_comm 10 value]
      by_cases hdigit : c.isDigit
      · simp only [digitValue?_of_isDigit hdigit, hdigit, true_and]
        split
        · rename_i hbelow
          exact ih hbelow
        · rename_i hnot
          refine iff_of_false nofun ?_
          rintro ⟨-, rfl, hlimit⟩
          exact hnot (Nat.lt_of_le_of_lt (le_ofDigitChars _ rest) hlimit)
      · simp only [digitValue?_of_not_isDigit hdigit, hdigit]
        exact iff_of_false nofun (fun h => Bool.false_ne_true h.1.1)

theorem readDigits_zero_eq_ok_iff {limit : Nat} (hlimit : 0 < limit) {cs : List Char} (hcs : cs ≠ []) (n : Nat) :
    readDigits limit 0 cs = .ok n ↔ DigitsOf n cs ∧ n < limit := by
  rw [readDigits_eq_ok_iff hlimit]
  constructor
  · rintro ⟨hdigits, hvalue, hbelow⟩
    exact ⟨⟨hcs, hdigits, hvalue⟩, hbelow⟩
  · rintro ⟨h, hbelow⟩
    exact ⟨h.isDigit, h.value, hbelow⟩

theorem numeralOf_plus_cons {n : Nat} {cs : List Char} : NumeralOf n ('+' :: cs) ↔ DigitsOf n cs := by
  constructor
  · rintro ⟨_, digits, heq, rfl | rfl, h⟩
    · obtain rfl : '+' :: cs = digits := heq
      exact absurd (h.isDigit '+' List.mem_cons_self) (by decide)
    · obtain rfl : cs = digits := List.tail_eq_of_cons_eq heq
      exact h
  · exact fun h => ⟨['+'], cs, rfl, .inr rfl, h⟩

theorem numeralOf_of_ne_plus {n : Nat} {c : Char} {cs : List Char} (hc : c ≠ '+') :
    NumeralOf n (c :: cs) ↔ DigitsOf n (c :: cs) := by
  constructor
  · rintro ⟨_, digits, heq, rfl | rfl, h⟩
    · obtain rfl : c :: cs = digits := heq
      exact h
    · exact absurd (List.head_eq_of_cons_eq heq) hc
  · exact fun h => ⟨[], c :: cs, rfl, .inl rfl, h⟩

theorem not_numeralOf_nil (n : Nat) : ¬NumeralOf n [] := by
  rintro ⟨sign, digits, heq, -, h⟩
  exact h.ne_nil (List.append_eq_nil_iff.mp heq.symm).2

/-- Exactly the numerals of numbers below the limit are read. -/
theorem readNat_eq_ok_iff {limit : Nat} (hlimit : 0 < limit) (cs : List Char) (n : Nat) :
    readNat limit cs = .ok n ↔ NumeralOf n cs ∧ n < limit := by
  unfold readNat
  split
  · exact iff_of_false nofun fun h => not_numeralOf_nil n h.1
  · refine iff_of_false nofun fun h => ?_
    exact (numeralOf_plus_cons.mp h.1).ne_nil rfl
  · rename_i rest hrest
    rw [numeralOf_plus_cons]
    exact readDigits_zero_eq_ok_iff hlimit (fun hnil => hrest (hnil ▸ rfl)) n
  · rename_i hnil _ hplus
    obtain ⟨c, rest, rfl⟩ := List.exists_cons_of_ne_nil hnil
    have hc : c ≠ '+' := fun h => hplus rest (h ▸ rfl)
    rw [numeralOf_of_ne_plus hc]
    exact readDigits_zero_eq_ok_iff hlimit (List.cons_ne_nil c rest) n

namespace NumeralOf

variable {n : Nat} {cs : List Char} (h : NumeralOf n cs)

include h

/-- A numeral stands for one number. -/
theorem unique {other : Nat} (hother : NumeralOf other cs) : n = other := by
  have hread := (readNat_eq_ok_iff (Nat.succ_pos (n + other)) cs n).mpr ⟨h, by omega⟩
  have hread' := (readNat_eq_ok_iff (Nat.succ_pos (n + other)) cs other).mpr ⟨hother, by omega⟩
  exact Except.ok.inj (hread.symm.trans hread')

theorem ends_in_digit : ∃ front c, cs = front ++ [c] ∧ c.isDigit := by
  obtain ⟨sign, digits, rfl, -, hdigits⟩ := h
  refine ⟨sign ++ digits.dropLast, digits.getLast hdigits.ne_nil, ?_, ?_⟩
  · rw [List.append_assoc, List.dropLast_concat_getLast]
  · exact hdigits.isDigit _ (List.getLast_mem hdigits.ne_nil)

theorem sign_or_digit : ∀ c ∈ cs, c = '+' ∨ c.isDigit := by
  obtain ⟨sign, digits, rfl, hsign, hdigits⟩ := h
  intro c hc
  rcases List.mem_append.mp hc with hmem | hmem
  · rcases hsign with rfl | rfl
    · cases hmem
    · exact .inl (List.mem_singleton.mp hmem)
  · exact .inr (hdigits.isDigit c hmem)

end NumeralOf

end SampleLoad
