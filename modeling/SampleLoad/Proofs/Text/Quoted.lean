import SampleLoad.Number.Reader
import SampleLoad.Text.Quoted

/-!
Reading texts in quotes. Every escape is read as the character that it stands for, so different texts look different.
Main statement: `Quoted.text_injective`.
-/

namespace SampleLoad.Quoted

/-! ### Code points -/

def hexValue (cs : List Char) : Nat := cs.foldl (fun n c => n * 16 + (hexDigitValue? c).getD 0) 0

theorem toDigits_hex (n : Nat) :
    hexValue (Nat.toDigits 16 n) = n ∧ ∀ c ∈ Nat.toDigits 16 n, c ≠ '\x7d' := by
  have hdigit : ∀ d < 16, (hexDigitValue? (Nat.digitChar d)).getD 0 = d ∧ Nat.digitChar d ≠ '\x7d' := by decide
  induction n using Nat.strongRecOn with
  | ind n ih =>
      rw [Nat.toDigits_eq_if (by decide)]
      split
      · rename_i hlt
        obtain ⟨hvalue, hbrace⟩ := hdigit n hlt
        refine ⟨?_, fun c hc => List.mem_singleton.mp hc ▸ hbrace⟩
        rw [hexValue, List.foldl_cons, List.foldl_nil, hvalue]
        omega
      · obtain ⟨hvalue, hbrace⟩ := hdigit (n % 16) (Nat.mod_lt _ (by decide))
        obtain ⟨hhigh, hothers⟩ := ih (n / 16) (by omega)
        constructor
        · rw [hexValue, List.foldl_append, ← hexValue, hhigh, List.foldl_cons, List.foldl_nil, hvalue]
          omega
        · intro c hc
          rcases List.mem_append.mp hc with hc | hc
          · exact hothers c hc
          · exact List.mem_singleton.mp hc ▸ hbrace

/-! ### Characters -/

/-- Reads one character, which may be escaped. -/
def readChar? : List Char → Option (Char × List Char)
  | '\\' :: 'u' :: rest =>
    some (Char.ofNat (hexValue ((rest.drop 1).takeWhile (· ≠ '\x7d'))), ((rest.drop 1).dropWhile (· ≠ '\x7d')).drop 1)
  | '\\' :: '0' :: rest => some ('\x00', rest)
  | '\\' :: 't' :: rest => some ('\t', rest)
  | '\\' :: 'r' :: rest => some ('\r', rest)
  | '\\' :: 'n' :: rest => some ('\n', rest)
  | '\\' :: c :: rest => some (c, rest)
  | c :: rest => some (c, rest)
  | [] => none

theorem readChar?_codePointEscape (c : Char) (rest : List Char) :
    readChar? (codePointEscape c ++ rest) = some (c, rest) := by
  obtain ⟨hvalue, hbrace⟩ := toDigits_hex c.toNat
  have htake : (Nat.toDigits 16 c.toNat ++ '\x7d' :: rest).takeWhile (· ≠ '\x7d') = Nat.toDigits 16 c.toNat := by
    rw [List.takeWhile_append_of_pos (by simpa using hbrace), List.takeWhile_cons_of_neg (by decide), List.append_nil]
  have hdrop : (Nat.toDigits 16 c.toNat ++ '\x7d' :: rest).dropWhile (· ≠ '\x7d') = '\x7d' :: rest := by
    rw [List.dropWhile_append_of_pos (by simpa using hbrace), List.dropWhile_cons_of_neg (by decide)]
  simp only [codePointEscape, List.cons_append, List.nil_append, List.append_assoc, readChar?, List.drop_succ_cons,
    List.drop_zero, htake, hdrop, hvalue, Char.ofNat_toNat]

theorem readChar?_escapeChar (c : Char) (rest : List Char) : readChar? (escapeChar c ++ rest) = some (c, rest) := by
  by_cases hnamed : c ∈ ['\x00', '\t', '\r', '\n', '\\', '"']
  · simp only [List.mem_cons, List.not_mem_nil, or_false] at hnamed
    rcases hnamed with rfl | rfl | rfl | rfl | rfl | rfl <;> rfl
  · simp only [List.mem_cons, List.not_mem_nil, or_false, not_or] at hnamed
    obtain ⟨hnul, htab, hreturn, hfeed, hbackslash, hquote⟩ := hnamed
    simp only [escapeChar, if_neg hnul, if_neg htab, if_neg hreturn, if_neg hfeed, if_neg hbackslash, if_neg hquote]
    split
    · exact readChar?_codePointEscape c rest
    · rw [List.singleton_append, readChar?]
      all_goals simp [hbackslash]

/-! ### Texts -/

theorem flatMap_escapeChar_injective : ∀ {s t : List Char}, s.flatMap escapeChar = t.flatMap escapeChar → s = t := by
  intro s
  induction s with
  | nil =>
      intro t h
      cases t with
      | nil => rfl
      | cons d t =>
          have hread := readChar?_escapeChar d (t.flatMap escapeChar)
          rw [← List.flatMap_cons, ← h] at hread
          cases hread
  | cons c s ih =>
      intro t h
      have hread := readChar?_escapeChar c (s.flatMap escapeChar)
      rw [← List.flatMap_cons, h] at hread
      cases t with
      | nil => cases hread
      | cons d t =>
          rw [List.flatMap_cons, readChar?_escapeChar] at hread
          obtain ⟨rfl, hrest⟩ := Prod.mk.inj (Option.some.inj hread)
          rw [ih hrest.symm]

/-- Different texts look different in quotes. -/
theorem text_injective {s t : String} (h : text s = text t) : s = t := by
  have hchars := congrArg String.toList h
  rw [text, text, String.toList_ofList, String.toList_ofList] at hchars
  have hescaped := List.append_cancel_right (List.cons.inj hchars).2
  exact String.toList_inj.mp (flatMap_escapeChar_injective hescaped)

end SampleLoad.Quoted
