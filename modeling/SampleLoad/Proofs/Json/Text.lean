import Mathlib.Data.Bool.AllAny
import SampleLoad.Json.Printer
import SampleLoad.Json.Reader

/-!
Reading the text of a value. A text that was printed is read as the value that it was printed from, if the value has no
floating point numbers, its whole numbers fit in 64 bits, and no key comes twice in an object. So different values have
different texts. Main statement: `Json.Plain.parse?_print`.
-/

namespace SampleLoad.Json

/-- The value has no floating point numbers, no numbers beyond 64 bits, and no key twice. -/
inductive Plain : Json → Prop where
  | null : Plain .null
  | bool (b : Bool) : Plain (.bool b)
  | whole {n : Int} (hlower : -(signedLimit : Int) ≤ n) (hupper : n < (wordLimit : Int)) : Plain (.whole n)
  | str (s : String) : Plain (.str s)
  | arr {items : List Json} (hitems : ∀ item ∈ items, Plain item) : Plain (.arr items)
  | obj {members : List (String × Json)} (hkeys : (members.map Prod.fst).Nodup)
    (hmembers : ∀ m ∈ members, Plain m.2) : Plain (.obj members)

namespace Reader

/-! ### Strings -/

theorem hexDigitValue?_digitChar : ∀ d < 16, hexDigitValue? (Nat.digitChar d) = some d := by
  decide

theorem escapedCodePoint_low {c : Char} (hc : c.toNat < 32) (rest : List Char) :
    escapedCodePoint ('0' :: '0' :: hexDigit (c.toNat / 16) :: hexDigit c.toNat :: rest) = some (c, rest) := by
  have hhigh : hexDigitValue? (hexDigit (c.toNat / 16)) = some (c.toNat / 16 % 16) :=
    hexDigitValue?_digitChar _ (Nat.mod_lt _ (by decide))
  have hlow : hexDigitValue? (hexDigit c.toNat) = some (c.toNat % 16) :=
    hexDigitValue?_digitChar _ (Nat.mod_lt _ (by decide))
  have hzero : hexDigitValue? '0' = some 0 := rfl
  have hvalue : ((0 * 16 + 0) * 16 + c.toNat / 16 % 16) * 16 + c.toNat % 16 = c.toNat := by omega
  have hunit : unit16 ('0' :: '0' :: hexDigit (c.toNat / 16) :: hexDigit c.toNat :: rest) = some (c.toNat, rest) := by
    simp only [unit16, hzero, hhigh, hlow, Option.bind_eq_bind, Option.bind_some, hvalue]
  have hsurrogate : ¬0xD800 ≤ c.toNat := by omega
  have hsecond : ¬0xDC00 ≤ c.toNat := by omega
  simp only [escapedCodePoint, hunit, Option.bind_eq_bind, Option.bind_some, decide_eq_false hsurrogate,
    decide_eq_false hsecond, Bool.false_and, Bool.false_eq_true, if_false, Char.ofNat_toNat]

/-- A character has an escape of its own, or is escaped by its number, or stands as it is. -/
theorem escapeChar_cases (c : Char) :
    c ∈ ['"', '\\', '\x08', '\x0c', '\n', '\r', '\t'] ∨
      (c.toNat < 32 ∧ escapeChar c = ['\\', 'u', '0', '0', hexDigit (c.toNat / 16), hexDigit c.toNat]) ∨
      (c ≠ '"' ∧ c ≠ '\\' ∧ ¬c.toNat < 32 ∧ escapeChar c = [c]) := by
  by_cases hnamed : c ∈ ['"', '\\', '\x08', '\x0c', '\n', '\r', '\t']
  · exact .inl hnamed
  · simp only [List.mem_cons, List.not_mem_nil, or_false, not_or] at hnamed
    obtain ⟨hquote, hbackslash, hb, hf, hn, hr, ht⟩ := hnamed
    by_cases hlow : c.toNat < 32
    · exact .inr (.inl ⟨hlow, by simp [escapeChar, hquote, hbackslash, hb, hf, hn, hr, ht, hlow]⟩)
    · exact .inr (.inr ⟨hquote, hbackslash, hlow, by
        simp [escapeChar, hquote, hbackslash, hb, hf, hn, hr, ht, hlow]⟩)

/-- One character that was printed is read. -/
theorem stringTail_escapeChar (fuel : Nat) (seen : List Char) (c : Char) (rest : List Char) :
    stringTail (fuel + 1) seen (escapeChar c ++ rest) = stringTail fuel (c :: seen) rest := by
  rcases escapeChar_cases c with hnamed | ⟨hlow, hescape⟩ | ⟨hquote, hbackslash, hlow, hescape⟩
  · simp only [List.mem_cons, List.not_mem_nil, or_false] at hnamed
    rcases hnamed with rfl | rfl | rfl | rfl | rfl | rfl | rfl <;> rfl
  · have hread := escapedCodePoint_low hlow rest
    rw [hescape]
    simp only [List.cons_append, List.nil_append, stringTail, hread]
  · rw [hescape, List.singleton_append, stringTail, if_neg hlow]
    · rintro rfl
      exact hquote rfl
    · rintro d tail rfl
      exact fun _ => hbackslash rfl

theorem stringTail_flatMap (s : List Char) {fuel : Nat} (hfuel : s.length < fuel) (seen rest : List Char) :
    stringTail fuel seen (s.flatMap escapeChar ++ '"' :: rest) = some (String.ofList (seen.reverse ++ s), rest) := by
  induction s generalizing fuel seen with
  | nil =>
      obtain ⟨fuel, rfl⟩ := Nat.exists_eq_add_one_of_ne_zero (Nat.ne_zero_of_lt hfuel)
      rw [List.append_nil]
      rfl
  | cons c s ih =>
      obtain ⟨fuel, rfl⟩ := Nat.exists_eq_add_one_of_ne_zero (Nat.ne_zero_of_lt hfuel)
      rw [List.flatMap_cons, List.append_assoc, stringTail_escapeChar, ih (Nat.lt_of_succ_lt_succ hfuel),
        List.reverse_cons, List.append_assoc, List.singleton_append]

theorem length_le_flatMap (s : List Char) : s.length ≤ (s.flatMap escapeChar).length := by
  induction s with
  | nil => exact Nat.le_refl 0
  | cons c s ih =>
      have hc : 0 < (escapeChar c).length := by
        unfold escapeChar
        repeat' split
        all_goals exact Nat.succ_pos _
      rw [List.flatMap_cons, List.length_append, List.length_cons]
      omega

/-- A string that was printed is read behind its opening quote. -/
theorem stringTail_quoted (s : String) (rest : List Char) :
    stringTail ((s.toList.flatMap escapeChar ++ '"' :: rest).length + 1) []
      (s.toList.flatMap escapeChar ++ '"' :: rest) = some (s, rest) := by
  have hlength : s.toList.length < (s.toList.flatMap escapeChar ++ '"' :: rest).length + 1 := by
    rw [List.length_append]
    exact Nat.lt_succ_of_le (Nat.le_add_right_of_le (length_le_flatMap s.toList))
  rw [stringTail_flatMap _ hlength, List.reverse_nil, List.nil_append, String.ofList_toList]

/-! ### Numbers -/

/-- What may follow a value in a text. -/
inductive Stops : List Char → Prop where
  | ended : Stops []
  | comma (rest : List Char) : Stops (',' :: rest)
  | bracket (rest : List Char) : Stops (']' :: rest)
  | brace (rest : List Char) : Stops ('\x7d' :: rest)

theorem head?_toDigits {n : Nat} (hn : 0 < n) : (Nat.toDigits 10 n).head? ≠ some '0' := by
  induction n using Nat.strongRecOn with
  | ind n ih =>
      rw [Nat.toDigits_eq_if (by decide)]
      split
      · rename_i hlt
        have hdigit : ∀ d < 10, 0 < d → some (Nat.digitChar d) ≠ some '0' := by decide
        exact hdigit n hlt hn
      · rw [List.head?_append, Option.or_of_isSome (by simp [Nat.toDigits_ne_nil])]
        exact ih (n / 10) (by omega) (by omega)

theorem digitsValue_toDigits (n : Nat) : digitsValue (Nat.toDigits 10 n) = n := by
  have hvalue : digitsValue (Nat.toDigits 10 n) = Nat.ofDigitChars 10 (Nat.toDigits 10 n) 0 := by
    simp only [digitsValue, Nat.ofDigitChars, Nat.mul_comm]
    rfl
  rw [hvalue, Nat.ofDigitChars_toDigits (by decide) (by decide)]

section Digits

variable (n : Nat) {rest : List Char} (hrest : Stops rest)

theorem toDigits_isDigit : ∀ c ∈ Nat.toDigits 10 n, c.isDigit = true := fun _ hc =>
  Nat.isDigit_of_mem_toDigits (by decide) (by decide) hc

/-- A number has digits, and the first of several is not zero. -/
theorem toDigits_leads :
    ((Nat.toDigits 10 n).isEmpty ||
      decide (1 < (Nat.toDigits 10 n).length) && decide ((Nat.toDigits 10 n).head? = some '0')) = false := by
  rw [List.isEmpty_eq_false_iff.mpr Nat.toDigits_ne_nil, Bool.false_or]
  rcases Nat.eq_zero_or_pos n with rfl | hn
  · rfl
  · rw [decide_eq_false (head?_toDigits hn), Bool.and_false]

include hrest

theorem takeWhile_toDigits : (Nat.toDigits 10 n ++ rest).takeWhile Char.isDigit = Nat.toDigits 10 n := by
  rw [List.takeWhile_append_of_pos (toDigits_isDigit n)]
  cases hrest <;> exact List.append_nil _

theorem dropWhile_toDigits : (Nat.toDigits 10 n ++ rest).dropWhile Char.isDigit = rest := by
  rw [List.dropWhile_append_of_pos (toDigits_isDigit n)]
  cases hrest <;> rfl

omit n in
theorem fractionDigits_stops : fractionDigits rest = some ([], rest) := by
  cases hrest <;> rfl

omit n in
theorem exponent_stops : exponent rest = some (none, rest) := by
  cases hrest <;> rfl

/-- A number that was printed is read. -/
theorem number_toDigits (hn : n < wordLimit) : number (Nat.toDigits 10 n ++ rest) = some (.whole n, rest) := by
  have hunsigned : ∀ tail, Nat.toDigits 10 n ++ rest ≠ '-' :: tail := by
    intro tail h
    obtain ⟨c, cs, hdigits⟩ := List.exists_cons_of_ne_nil (Nat.toDigits_ne_nil : Nat.toDigits 10 n ≠ [])
    rw [hdigits] at h
    have hc := toDigits_isDigit n c (hdigits ▸ List.mem_cons_self)
    rw [(List.cons.inj h).1] at hc
    exact absurd hc (by decide)
  unfold number
  split
  rename_i negative cs hcs
  split at hcs
  · exact absurd (by assumption) (hunsigned _)
  · cases hcs
    simp only [takeWhile_toDigits n hrest, dropWhile_toDigits n hrest, toDigits_leads, fractionDigits_stops hrest,
      exponent_stops hrest, digitsValue_toDigits, decide_eq_true hn, Bool.false_eq_true, if_false, if_true,
      Option.bind_eq_bind, Option.bind_some, List.isEmpty_nil, Option.isNone_none, Bool.and_self]

theorem number_negative (hpositive : 0 < n) (hn : n ≤ signedLimit) :
    number ('-' :: (Nat.toDigits 10 n ++ rest)) = some (.whole (-n), rest) := by
  simp only [number, takeWhile_toDigits n hrest, dropWhile_toDigits n hrest, toDigits_leads,
    fractionDigits_stops hrest, exponent_stops hrest, digitsValue_toDigits, decide_eq_true hpositive,
    decide_eq_true hn, Bool.false_eq_true, if_false, if_true, Option.bind_eq_bind, Option.bind_some,
    List.isEmpty_nil, Option.isNone_none, Bool.and_self]

end Digits

/-! ### Values -/

theorem skipBlanks_cons {c : Char} (hc : isBlank c = false) (cs : List Char) : skipBlanks (c :: cs) = c :: cs := by
  rw [skipBlanks, List.dropWhile_cons, hc, if_neg Bool.false_ne_true]

/-- The text of a value starts with no blank, and not as an array ends. -/
def Starts (cs : List Char) : Prop := ∃ c rest, cs = c :: rest ∧ isBlank c = false ∧ c ≠ ']'

theorem starts_number {c : Char} {cs : List Char} (hc : c.isDigit = true ∨ c = '-') (fuel : Nat) :
    Starts (c :: cs) ∧ value (fuel + 1) (c :: cs) = number (c :: cs) := by
  have hdistinct : c ∉ [' ', '\t', '\n', '\r', ']', '"', '[', '\x7b', 't', 'f', 'n'] := by
    intro hmem
    rcases hc with hdigit | rfl
    · have hnone : ∀ d ∈ [' ', '\t', '\n', '\r', ']', '"', '[', '\x7b', 't', 'f', 'n'], d.isDigit = false :=
        List.all_iff_forall_prop.mp (by decide)
      exact absurd hdigit (by rw [hnone c hmem]; decide)
    · exact absurd hmem (by decide)
  simp only [List.mem_cons, List.not_mem_nil, or_false, not_or] at hdistinct
  obtain ⟨hspace, htab, hnewline, hreturn, hbracket, hquote, hopen, hbrace, ht, hf, hn⟩ := hdistinct
  have hblank : isBlank c = false := by simp [isBlank, hspace, htab, hnewline, hreturn]
  refine ⟨⟨c, cs, rfl, hblank, hbracket⟩, ?_⟩
  rw [value, skipBlanks_cons hblank]
  split <;> simp_all

/-- The text of the value is read, whatever follows it. -/
def Reads (j : Json) : Prop :=
  Starts j.print.toList ∧ ∀ (fuel : Nat) (rest : List Char), j.print.toList.length < fuel → Stops rest →
    value fuel (j.print.toList ++ rest) = some (j, rest)

theorem toList_intercalate_cons (text next : String) (texts : List String) :
    (",".intercalate (text :: next :: texts)).toList =
      text.toList ++ ',' :: (",".intercalate (next :: texts)).toList := by
  rw [String.intercalate_cons_cons, String.toList_append, String.toList_append, List.append_assoc]
  rfl

theorem toList_intercalate_first (text : String) (texts : List String) :
    ∃ later, (",".intercalate (text :: texts)).toList = text.toList ++ later := by
  cases texts with
  | nil => exact ⟨[], by rw [String.intercalate_singleton, List.append_nil]⟩
  | cons next texts => exact ⟨_, toList_intercalate_cons text next texts⟩

theorem items_print {item : Json} {others : List Json} (hreads : ∀ j ∈ item :: others, Reads j) {fuel : Nat}
    (hfuel : (",".intercalate (itemTexts (item :: others))).toList.length + 1 < fuel) (seen : List Json)
    (rest : List Char) :
    items fuel seen ((",".intercalate (itemTexts (item :: others))).toList ++ ']' :: rest) =
      some (.arr (seen.reverse ++ item :: others), rest) := by
  -- A step takes one unit of fuel and at least the comma of the text, so fuel stays ahead of what is left to read.
  induction others generalizing item fuel seen with
  | nil =>
      obtain ⟨fuel, rfl⟩ := Nat.exists_eq_add_one_of_ne_zero (Nat.ne_zero_of_lt hfuel)
      obtain ⟨-, hitem⟩ := hreads item List.mem_cons_self
      rw [itemTexts, itemTexts, String.intercalate_singleton] at hfuel ⊢
      rw [items, hitem _ _ (by omega) (.bracket rest)]
      simp only [skipBlanks_cons (show isBlank ']' = false from rfl), List.reverse_cons]
  | cons next others ih =>
      obtain ⟨fuel, rfl⟩ := Nat.exists_eq_add_one_of_ne_zero (Nat.ne_zero_of_lt hfuel)
      obtain ⟨-, hitem⟩ := hreads item List.mem_cons_self
      rw [itemTexts, itemTexts, toList_intercalate_cons, ← itemTexts] at hfuel ⊢
      rw [List.length_append, List.length_cons] at hfuel
      rw [items, List.append_assoc, List.cons_append, hitem _ _ (by omega) (.comma _)]
      simp only [skipBlanks_cons (show isBlank ',' = false from rfl)]
      rw [ih (fun j hj => hreads j (List.mem_cons_of_mem _ hj)) (by omega)]
      rw [List.reverse_cons, List.append_assoc, List.singleton_append]

theorem putMember_fresh {key : String} {seen : List (String × Json)} (hkey : key ∉ seen.map Prod.fst) (j : Json) :
    putMember key j seen = seen ++ [(key, j)] := by
  have hnone : (seen.any fun m => decide (m.1 = key)) = false := by
    rw [List.any_eq_false]
    intro m hm heq
    exact hkey (List.mem_map.mpr ⟨m, hm, by simpa using heq⟩)
  rw [putMember, hnone, if_neg Bool.false_ne_true]

theorem toList_memberText (key : String) (j : Json) :
    (quote key ++ ":" ++ j.print).toList = '"' :: (key.toList.flatMap escapeChar ++ '"' :: ':' :: j.print.toList) := by
  rw [String.toList_append, String.toList_append, quote, String.toList_ofList]
  simp only [List.cons_append, List.append_assoc, List.nil_append]
  rfl

/-- What is read behind a member: further members, or the end of the object. -/
def membersBehind (fuel : Nat) (seen : List (String × Json)) (rest : List Char) : Option (Json × List Char) :=
  match skipBlanks rest with
  | ',' :: rest => members fuel seen rest
  | '\x7d' :: rest => some (obj seen, rest)
  | _ => none

/-- One member that was printed is read. -/
theorem member_print {key : String} {j : Json} (hread : Reads j) {fuel : Nat}
    (hfuel : (quote key ++ ":" ++ j.print).toList.length < fuel) (seen : List (String × Json)) {next : List Char}
    (hnext : Stops next) :
    members (fuel + 1) seen ((quote key ++ ":" ++ j.print).toList ++ next) =
      membersBehind fuel (putMember key j seen) next := by
  rw [toList_memberText] at hfuel ⊢
  simp only [List.length_cons, List.length_append] at hfuel
  have hvalue := hread.2 fuel next (by omega) hnext
  simp only [List.cons_append, List.append_assoc, members, skipBlanks_cons (show isBlank '"' = false from rfl),
    stringTail_quoted, skipBlanks_cons (show isBlank ':' = false from rfl), hvalue]
  rfl

theorem fresh_of_nodup {key : String} {j : Json} {seen others : List (String × Json)}
    (hkeys : ((seen ++ (key, j) :: others).map Prod.fst).Nodup) : key ∉ seen.map Prod.fst := by
  intro hmem
  rw [List.map_append, List.map_cons] at hkeys
  exact (List.nodup_append.mp hkeys).2.2 key hmem key List.mem_cons_self rfl

theorem members_print {key : String} {j : Json} {others : List (String × Json)}
    (hreads : ∀ m ∈ (key, j) :: others, Reads m.2) {fuel : Nat}
    (hfuel : (",".intercalate (memberTexts ((key, j) :: others))).toList.length + 1 < fuel)
    {seen : List (String × Json)} (hkeys : ((seen ++ (key, j) :: others).map Prod.fst).Nodup) (rest : List Char) :
    members fuel seen ((",".intercalate (memberTexts ((key, j) :: others))).toList ++ '\x7d' :: rest) =
      some (.obj (seen ++ (key, j) :: others), rest) := by
  induction others generalizing key j fuel seen with
  | nil =>
      obtain ⟨fuel, rfl⟩ := Nat.exists_eq_add_one_of_ne_zero (Nat.ne_zero_of_lt hfuel)
      have hmember : Reads j := hreads (key, j) List.mem_cons_self
      rw [memberTexts, memberTexts, String.intercalate_singleton] at hfuel ⊢
      rw [member_print hmember (by omega) seen (.brace rest), putMember_fresh (fresh_of_nodup hkeys), membersBehind]
      simp only [skipBlanks_cons (show isBlank '\x7d' = false from rfl)]
  | cons next others ih =>
      obtain ⟨fuel, rfl⟩ := Nat.exists_eq_add_one_of_ne_zero (Nat.ne_zero_of_lt hfuel)
      have hmember : Reads j := hreads (key, j) List.mem_cons_self
      rw [memberTexts, memberTexts, toList_intercalate_cons, ← memberTexts] at hfuel ⊢
      rw [List.length_append, List.length_cons] at hfuel
      rw [List.append_assoc, List.cons_append, member_print hmember (by omega) seen (.comma _),
        putMember_fresh (fresh_of_nodup hkeys), membersBehind]
      simp only [skipBlanks_cons (show isBlank ',' = false from rfl)]
      rw [ih (fun m hm => hreads m (List.mem_cons_of_mem _ hm)) (by omega)]
      · rw [List.append_assoc, List.singleton_append]
      · rwa [List.append_assoc, List.singleton_append]

/-! ### Values -/

theorem reads_word {j : Json} {c : Char} {cs : List Char} (hprint : j.print.toList = c :: cs)
    (hstart : isBlank c = false ∧ c ≠ ']')
    (hvalue : ∀ fuel rest, value (fuel + 1) (c :: (cs ++ rest)) = some (j, rest)) : Reads j := by
  refine ⟨⟨c, cs, hprint, hstart⟩, ?_⟩
  intro fuel rest hfuel _
  obtain ⟨fuel, rfl⟩ := Nat.exists_eq_add_one_of_ne_zero (Nat.ne_zero_of_lt hfuel)
  rw [hprint, List.cons_append, hvalue]

theorem reads_number {j : Json} {c : Char} {cs : List Char} (hprint : j.print.toList = c :: cs)
    (hc : c.isDigit = true ∨ c = '-') (hnumber : ∀ rest, Stops rest → number (c :: cs ++ rest) = some (j, rest)) :
    Reads j := by
  refine ⟨hprint ▸ (starts_number hc 0).1, ?_⟩
  intro fuel rest hfuel hrest
  obtain ⟨fuel, rfl⟩ := Nat.exists_eq_add_one_of_ne_zero (Nat.ne_zero_of_lt hfuel)
  rw [hprint, List.cons_append, (starts_number hc fuel).2]
  exact hnumber rest hrest

theorem reads_whole {n : Int} (hlower : -(signedLimit : Int) ≤ n) (hupper : n < (wordLimit : Int)) :
    Reads (.whole n) := by
  cases n with
  | ofNat n =>
      obtain ⟨c, cs, hdigits⟩ := List.exists_cons_of_ne_nil (Nat.toDigits_ne_nil : Nat.toDigits 10 n ≠ [])
      have hprint : (print (.whole n)).toList = c :: cs := by
        rw [← hdigits, print]
        exact String.toList_ofList
      refine reads_number hprint (.inl (toDigits_isDigit n c (hdigits ▸ List.mem_cons_self))) ?_
      intro rest hrest
      rw [← hdigits]
      exact number_toDigits n hrest (Int.ofNat_lt.mp hupper)
  | negSucc n =>
      have hprint : (print (.whole (.negSucc n))).toList = '-' :: Nat.toDigits 10 (n + 1) := by
        show ("-" ++ String.ofList (Nat.toDigits 10 (n + 1))).toList = _
        simp only [String.toList_append, String.toList_ofList]
        rfl
      refine reads_number hprint (.inr rfl) ?_
      intro rest hrest
      exact number_negative (n + 1) hrest n.succ_pos (by omega)

theorem reads_str (s : String) : Reads (.str s) := by
  refine ⟨⟨'"', s.toList.flatMap escapeChar ++ ['"'], ?_, by decide⟩, ?_⟩
  · rw [print, quote, String.toList_ofList]
    rfl
  · intro fuel rest hfuel _
    obtain ⟨fuel, rfl⟩ := Nat.exists_eq_add_one_of_ne_zero (Nat.ne_zero_of_lt hfuel)
    rw [print, quote, String.toList_ofList, List.cons_append, List.cons_append, List.append_assoc,
      List.singleton_append, value, skipBlanks_cons rfl]
    simp only [stringTail_quoted, Option.map_some]

theorem reads_arr {items : List Json} (hreads : ∀ j ∈ items, Reads j) : Reads (.arr items) := by
  have hprint : (print (.arr items)).toList = '[' :: ((",".intercalate (itemTexts items)).toList ++ [']']) := by
    rw [print, String.toList_append, String.toList_append]
    rfl
  refine ⟨⟨'[', _, hprint, by decide⟩, ?_⟩
  intro fuel rest hfuel _
  rw [hprint] at hfuel ⊢
  obtain ⟨fuel, rfl⟩ := Nat.exists_eq_add_one_of_ne_zero (Nat.ne_zero_of_lt hfuel)
  cases items with
  | nil => rfl
  | cons item others =>
      simp only [List.length_cons, List.length_append, List.length_nil] at hfuel
      rw [List.cons_append, List.append_assoc, List.singleton_append]
      have hitems : Reader.items fuel [] ((",".intercalate (itemTexts (item :: others))).toList ++ ']' :: rest) =
          some (.arr (item :: others), rest) := items_print hreads (by omega) [] rest
      obtain ⟨⟨c, cs, hitem, hblank, hbracket⟩, -⟩ := hreads item List.mem_cons_self
      obtain ⟨later, hfirst⟩ := toList_intercalate_first item.print (itemTexts others)
      rw [← itemTexts, hitem, List.cons_append] at hfirst
      rw [hfirst, List.cons_append] at hitems ⊢
      rw [value, skipBlanks_cons rfl]
      simp only [skipBlanks_cons hblank]
      split
      · exact absurd (List.cons.inj (by assumption)).1 hbracket
      · exact hitems

theorem reads_obj {members : List (String × Json)} (hkeys : (members.map Prod.fst).Nodup)
    (hreads : ∀ m ∈ members, Reads m.2) : Reads (.obj members) := by
  have hprint : (print (.obj members)).toList =
      '\x7b' :: ((",".intercalate (memberTexts members)).toList ++ ['\x7d']) := by
    rw [print, String.toList_append, String.toList_append]
    rfl
  refine ⟨⟨'\x7b', _, hprint, by decide⟩, ?_⟩
  intro fuel rest hfuel _
  rw [hprint] at hfuel ⊢
  obtain ⟨fuel, rfl⟩ := Nat.exists_eq_add_one_of_ne_zero (Nat.ne_zero_of_lt hfuel)
  cases members with
  | nil => rfl
  | cons m others =>
      obtain ⟨key, j⟩ := m
      simp only [List.length_cons, List.length_append, List.length_nil] at hfuel
      rw [List.cons_append, List.append_assoc, List.singleton_append]
      have hmembers : Reader.members fuel []
          ((",".intercalate (memberTexts ((key, j) :: others))).toList ++ '\x7d' :: rest) =
            some (.obj ((key, j) :: others), rest) := members_print hreads (by omega) hkeys rest
      obtain ⟨later, hfirst⟩ := toList_intercalate_first (quote key ++ ":" ++ j.print) (memberTexts others)
      rw [← memberTexts, toList_memberText, List.cons_append] at hfirst
      rw [hfirst, List.cons_append] at hmembers ⊢
      rw [value, skipBlanks_cons rfl]
      simp only [skipBlanks_cons (show isBlank '"' = false from rfl)]
      exact hmembers

theorem reads_of_plain {j : Json} (hj : Plain j) : Reads j := by
  induction hj with
  | null => exact reads_word rfl (by decide) fun _ _ => rfl
  | bool b => cases b <;> exact reads_word rfl (by decide) fun _ _ => rfl
  | whole hlower hupper => exact reads_whole hlower hupper
  | str s => exact reads_str s
  | arr hitems ih => exact reads_arr ih
  | obj hkeys hmembers ih => exact reads_obj hkeys ih

end Reader

/-- The text of a value without floating point numbers is read as the value. -/
theorem Plain.parse?_print {j : Json} (hj : Plain j) : parse? j.print = some j := by
  obtain ⟨-, hread⟩ := Reader.reads_of_plain hj
  have hvalue := hread (2 * j.print.toList.length + 2) [] (by omega) .ended
  rw [List.append_nil] at hvalue
  simp only [parse?, hvalue, Option.bind_eq_bind, Option.bind_some]
  rfl

end SampleLoad.Json
