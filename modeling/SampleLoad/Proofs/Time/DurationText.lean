import SampleLoad.Proofs.Number.Decimal
import SampleLoad.Time.Duration

/-!
The texts that are read as durations: a numeral of a number that is not too large, one of four endings, and white space
around both. The endings overlap, so the longest is looked for first, and what is left must be a numeral as a whole.
Since that ends in a digit, a text has at most one reading. Main statement: `Duration.parse_reads_exactly`.
-/

namespace SampleLoad

/-! ### Trimming -/

section Trim

variable {unwanted : Char → Bool}

theorem dropWhile_of_kept {cs : List Char} (h : ∀ c ∈ cs, ¬unwanted c) : cs.dropWhile unwanted = cs := by
  cases cs with
  | nil => rfl
  | cons c rest => exact List.dropWhile_cons_of_neg (h c List.mem_cons_self)

/-- What is between unwanted characters is what trimming leaves, if all of it is wanted. -/
theorem trimBoth_append {before core after : List Char} (hbefore : ∀ c ∈ before, unwanted c)
    (hafter : ∀ c ∈ after, unwanted c) (hcore : ∀ c ∈ core, ¬unwanted c) :
    trimBoth unwanted (before ++ core ++ after) = core := by
  have hafter' : ∀ c ∈ after.reverse, unwanted c := fun c hc => hafter c (List.mem_reverse.mp hc)
  have hcore' : ∀ c ∈ core.reverse, ¬unwanted c := fun c hc => hcore c (List.mem_reverse.mp hc)
  cases core with
  | nil =>
      have hall : ∀ c ∈ before ++ [] ++ after, unwanted c := by
        rw [List.append_nil]
        exact List.forall_mem_append.mpr ⟨hbefore, hafter⟩
      rw [trimBoth, ← List.append_nil (before ++ [] ++ after), List.dropWhile_append_of_pos hall]
      rfl
  | cons c rest =>
      calc trimBoth unwanted (before ++ (c :: rest) ++ after)
          = (((c :: rest ++ after).dropWhile unwanted).reverse.dropWhile unwanted).reverse := by
              rw [trimBoth, List.append_assoc, List.dropWhile_append_of_pos hbefore]
        _ = ((c :: rest ++ after).reverse.dropWhile unwanted).reverse := by
              rw [List.cons_append, List.dropWhile_cons_of_neg (hcore c List.mem_cons_self)]
        _ = ((c :: rest).reverse.dropWhile unwanted).reverse := by
              rw [List.reverse_append, List.dropWhile_append_of_pos hafter']
        _ = c :: rest := by rw [dropWhile_of_kept hcore', List.reverse_reverse]

/-- Trimming takes unwanted characters away from both ends. -/
theorem trimBoth_splits (unwanted : Char → Bool) (cs : List Char) :
    ∃ before after, cs = before ++ trimBoth unwanted cs ++ after ∧ (∀ c ∈ before, unwanted c) ∧
      ∀ c ∈ after, unwanted c := by
  let rest := cs.dropWhile unwanted
  have hback : (rest.reverse.dropWhile unwanted).reverse ++ (rest.reverse.takeWhile unwanted).reverse = rest := by
    rw [← List.reverse_append, List.takeWhile_append_dropWhile, List.reverse_reverse]
  refine ⟨cs.takeWhile unwanted, (rest.reverse.takeWhile unwanted).reverse, ?_, ?_, ?_⟩
  · rw [trimBoth, List.append_assoc, hback, List.takeWhile_append_dropWhile]
  · exact List.all_eq_true.mp List.all_takeWhile
  · exact fun c hc => List.all_eq_true.mp List.all_takeWhile c (List.mem_reverse.mp hc)

end Trim

/-! ### Units -/

/-- The units in which durations are written. A number without a unit is one of seconds. -/
inductive DurationUnit where
  | milliseconds
  | seconds
  | minutes
  | unmarked
  deriving DecidableEq, Repr

namespace DurationUnit

def ending : DurationUnit → List Char
  | milliseconds => ['m', 's']
  | seconds => ['s']
  | minutes => ['m']
  | unmarked => []

def nanos : DurationUnit → Nat
  | milliseconds => 1000000
  | seconds | unmarked => 1000000000
  | minutes => 60000000000

/-- The number is a 64-bit number, and minutes also come to a 64-bit number of seconds. -/
def Fits (unit : DurationUnit) (n : Nat) : Prop := n < wordLimit ∧ (unit = minutes → 60 * n < wordLimit)

theorem not_fits_iff {unit : DurationUnit} {n : Nat} :
    ¬unit.Fits n ↔ wordLimit ≤ n ∨ unit = minutes ∧ wordLimit ≤ 60 * n := by
  rw [Fits, Classical.not_and_iff_not_or_not, Classical.not_imp, Nat.not_lt, Nat.not_lt]

def length : DurationUnit → Nat → Duration
  | milliseconds, n => .ofMillis n
  | seconds, n | unmarked, n => .ofSeconds n
  | minutes, n => .ofSeconds (n * 60)

theorem length_eq_iff (unit : DurationUnit) (n : Nat) (d : Duration) :
    d = unit.length n ↔ d.nanos < 1000000000 ∧ d.seconds * 1000000000 + d.nanos = n * unit.nanos := by
  obtain ⟨whole, fraction⟩ := d
  cases unit <;> simp only [length, Duration.ofMillis, Duration.ofSeconds, nanos, Duration.mk.injEq] <;> omega

theorem length_seconds_lt {unit : DurationUnit} {n : Nat} (h : unit.Fits n) : (unit.length n).seconds < wordLimit := by
  obtain ⟨hword, hminutes⟩ := h
  cases unit with
  | milliseconds => exact Nat.lt_of_le_of_lt (Nat.div_le_self n 1000) hword
  | seconds => exact hword
  | minutes =>
      show n * 60 < wordLimit
      exact Nat.mul_comm n 60 ▸ hminutes rfl
  | unmarked => exact hword

end DurationUnit

namespace Duration

/-! ### Endings -/

theorem withoutEnding?_eq_some_iff {ending cs number : List Char} :
    withoutEnding? ending cs = some number ↔ cs = number ++ ending := by
  rw [withoutEnding?]
  split
  · rename_i hsuffix
    obtain ⟨front, rfl⟩ := List.isSuffixOf_iff_suffix.mp hsuffix
    rw [List.length_append, Nat.add_sub_cancel, List.take_left, Option.some.injEq, List.append_left_inj]
  · rename_i hnot
    refine iff_of_false nofun ?_
    rintro rfl
    exact hnot (List.isSuffixOf_iff_suffix.mpr (List.suffix_append number ending))

theorem withoutEnding?_append (number ending : List Char) : withoutEnding? ending (number ++ ending) = some number :=
  withoutEnding?_eq_some_iff.mpr rfl

/-- A text does not have an ending whose last character is another than its own. -/
theorem withoutEnding?_of_last_ne {c last : Char} (hne : last ≠ c) (ending front : List Char) :
    withoutEnding? (ending ++ [last]) (front ++ [c]) = none := by
  rw [Option.eq_none_iff_forall_ne_some]
  intro number h
  have heq := withoutEnding?_eq_some_iff.mp h
  rw [← List.append_assoc] at heq
  exact hne (List.cons.inj (List.append_inj_right' heq rfl)).1.symm

/-- The number and the unit that are looked for in a text without white space around it. -/
def splitUnit (cs : List Char) : List Char × DurationUnit :=
  match withoutEnding? ['m', 's'] cs with
  | some number => (number, .milliseconds)
  | none =>
    match withoutEnding? ['m'] cs with
    | some number => (number, .minutes)
    | none =>
      match withoutEnding? ['s'] cs with
      | some number => (number, .seconds)
      | none => (cs, .unmarked)

theorem splitUnit_joins (cs : List Char) : (splitUnit cs).1 ++ (splitUnit cs).2.ending = cs := by
  unfold splitUnit
  split
  · rename_i h
    exact (withoutEnding?_eq_some_iff.mp h).symm
  · split
    · rename_i h
      exact (withoutEnding?_eq_some_iff.mp h).symm
    · split
      · rename_i h
        exact (withoutEnding?_eq_some_iff.mp h).symm
      · exact List.append_nil cs

/-- What ends in a digit is split from any ending as a whole. -/
theorem splitUnit_append {c : Char} (hc : c.isDigit) (front : List Char) (unit : DurationUnit) :
    splitUnit (front ++ [c] ++ unit.ending) = (front ++ [c], unit) := by
  have hm : 'm' ≠ c := by rintro rfl; exact absurd hc (by decide)
  have hs : 's' ≠ c := by rintro rfl; exact absurd hc (by decide)
  rw [splitUnit]
  cases unit with
  | milliseconds =>
      rw [DurationUnit.ending, withoutEnding?_append]
  | seconds =>
      have hnotMillis : withoutEnding? ['m', 's'] (front ++ [c] ++ ['s']) = none := by
        rw [Option.eq_none_iff_forall_ne_some]
        intro number h
        have heq : front ++ [c] ++ ['s'] = number ++ ['m'] ++ ['s'] := by
          rw [withoutEnding?_eq_some_iff.mp h, List.append_assoc]
          rfl
        have hlast := List.append_inj_right' (List.append_inj_left' heq rfl) rfl
        exact hm (List.cons.inj hlast).1.symm
      have hnotMinutes : withoutEnding? ['m'] (front ++ [c] ++ ['s']) = none :=
        withoutEnding?_of_last_ne (by decide) [] (front ++ [c])
      rw [DurationUnit.ending, hnotMillis]
      simp only [hnotMinutes, withoutEnding?_append]
  | minutes =>
      have hnotMillis : withoutEnding? ['m', 's'] (front ++ [c] ++ ['m']) = none :=
        withoutEnding?_of_last_ne (by decide) ['m'] (front ++ [c])
      rw [DurationUnit.ending, hnotMillis]
      simp only [withoutEnding?_append]
  | unmarked =>
      have hnotMillis : withoutEnding? ['m', 's'] (front ++ [c]) = none := withoutEnding?_of_last_ne hs ['m'] front
      have hnotMinutes : withoutEnding? ['m'] (front ++ [c]) = none := withoutEnding?_of_last_ne hm [] front
      have hnotSeconds : withoutEnding? ['s'] (front ++ [c]) = none := withoutEnding?_of_last_ne hs [] front
      rw [DurationUnit.ending, List.append_nil, hnotMillis]
      simp only [hnotMinutes, hnotSeconds]

theorem readNat_lt {cs : List Char} {n : Nat} (h : readNat wordLimit cs = .ok n) : n < wordLimit :=
  ((readNat_eq_ok_iff (by decide) cs n).mp h).2

/-- A number that is read fits every unit but minutes. -/
theorem fits_of_readNat {unit : DurationUnit} (hunit : unit ≠ .minutes) {cs : List Char} {n : Nat}
    (h : readNat wordLimit cs = .ok n) : unit.Fits n :=
  ⟨readNat_lt h, fun hminutes => absurd hminutes hunit⟩

theorem ok_length_iff {unit : DurationUnit} {n : Nat} (hfits : unit.Fits n) (d : Duration) :
    (.ok (unit.length n) : Except DurationError Duration) = .ok d ↔
      ∃ other, (.ok n : Except NumberFault Nat) = .ok other ∧ unit.Fits other ∧ d = unit.length other := by
  constructor
  · intro h
    exact ⟨n, rfl, hfits, (Except.ok.inj h).symm⟩
  · rintro ⟨other, h, -, rfl⟩
    rw [Except.ok.inj h]

/-- A text is read by its number and its unit. -/
theorem readTrimmed_eq_ok_iff (cs : List Char) (d : Duration) :
    readTrimmed cs = .ok d ↔
      ∃ n, readNat wordLimit (splitUnit cs).1 = .ok n ∧ (splitUnit cs).2.Fits n ∧ d = (splitUnit cs).2.length n := by
  rw [readTrimmed]
  by_cases hcs : cs = []
  · subst hcs
    rw [if_pos rfl]
    refine iff_of_false nofun ?_
    rintro ⟨n, hread, -⟩
    cases hread
  rw [if_neg hcs, splitUnit]
  cases withoutEnding? ['m', 's'] cs with
  | some number =>
      dsimp only
      cases hread : readNat wordLimit number with
      | error fault => simp
      | ok n => exact ok_length_iff (fits_of_readNat (show DurationUnit.milliseconds ≠ .minutes by decide) hread) d
  | none =>
      cases withoutEnding? ['m'] cs with
      | some number =>
          dsimp only
          cases hread : readNat wordLimit number with
          | error fault => simp
          | ok n =>
              dsimp only
              by_cases hfits : n * 60 < wordLimit
              · rw [if_pos hfits]
                have hminutes : DurationUnit.minutes.Fits n := ⟨readNat_lt hread, fun _ => Nat.mul_comm n 60 ▸ hfits⟩
                exact ok_length_iff hminutes d
              · rw [if_neg hfits]
                refine iff_of_false nofun ?_
                rintro ⟨other, heq, hminutes, -⟩
                obtain rfl : n = other := Except.ok.inj heq
                exact hfits (Nat.mul_comm 60 n ▸ hminutes.2 rfl)
      | none =>
          cases withoutEnding? ['s'] cs with
          | some number =>
              dsimp only [Option.getD_some]
              cases hread : readNat wordLimit number with
              | error fault => simp
              | ok n => exact ok_length_iff (fits_of_readNat (show DurationUnit.seconds ≠ .minutes by decide) hread) d
          | none =>
              dsimp only [Option.getD_none]
              cases hread : readNat wordLimit cs with
              | error fault => simp
              | ok n => exact ok_length_iff (fits_of_readNat (show DurationUnit.unmarked ≠ .minutes by decide) hread) d

/-! ### Readings -/

/-- The text is a number of units, with white space around it. -/
def Spells (unit : DurationUnit) (n : Nat) (cs : List Char) : Prop :=
  ∃ before numeral after, cs = before ++ (numeral ++ unit.ending) ++ after ∧
    (∀ c ∈ before, isBlank c) ∧ (∀ c ∈ after, isBlank c) ∧ NumeralOf n numeral

theorem not_isBlank_of_isDigit {c : Char} (h : c.isDigit) : ¬isBlank c := by
  have hrange : 48 ≤ c.toNat ∧ c.toNat ≤ 57 := by
    simp only [Char.isDigit, Bool.and_eq_true, decide_eq_true_eq] at h
    exact h
  simp only [isBlank, Bool.or_eq_true, Bool.and_eq_true, decide_eq_true_eq]
  omega

/-- There is no white space within what is spelled. -/
theorem not_isBlank_of_mem {unit : DurationUnit} {n : Nat} {numeral : List Char} (h : NumeralOf n numeral) :
    ∀ c ∈ numeral ++ unit.ending, ¬isBlank c := by
  intro c hc
  rcases List.mem_append.mp hc with hmem | hmem
  · rcases h.sign_or_digit c hmem with rfl | hdigit
    · decide
    · exact not_isBlank_of_isDigit hdigit
  · have hending : unit.ending.all (fun c => !isBlank c) := by cases unit <;> decide
    simpa using List.all_eq_true.mp hending c hmem

/-- What is spelled is found by trimming the text and then splitting it. -/
theorem spells_iff {unit : DurationUnit} {n : Nat} {cs : List Char} :
    Spells unit n cs ↔
      NumeralOf n (splitUnit (trimBoth isBlank cs)).1 ∧ (splitUnit (trimBoth isBlank cs)).2 = unit := by
  constructor
  · rintro ⟨before, numeral, after, rfl, hbefore, hafter, h⟩
    obtain ⟨front, c, rfl, hdigit⟩ := h.ends_in_digit
    rw [trimBoth_append hbefore hafter (not_isBlank_of_mem h), splitUnit_append hdigit]
    exact ⟨h, rfl⟩
  · rintro ⟨h, rfl⟩
    obtain ⟨before, after, heq, hbefore, hafter⟩ := trimBoth_splits isBlank cs
    refine ⟨before, _, after, ?_, hbefore, hafter, h⟩
    rw [splitUnit_joins]
    exact heq

theorem parse_eq_ok_iff (s : String) (d : Duration) :
    parse s = .ok d ↔ ∃ unit n, Spells unit n s.toList ∧ unit.Fits n ∧ d = unit.length n := by
  rw [parse, readTrimmed_eq_ok_iff]
  constructor
  · rintro ⟨n, hread, hfits, hlength⟩
    have hnumeral := ((readNat_eq_ok_iff (by decide) _ n).mp hread).1
    exact ⟨_, n, spells_iff.mpr ⟨hnumeral, rfl⟩, hfits, hlength⟩
  · rintro ⟨unit, n, hspells, hfits, hlength⟩
    obtain ⟨hnumeral, rfl⟩ := spells_iff.mp hspells
    exact ⟨n, (readNat_eq_ok_iff (by decide) _ n).mpr ⟨hnumeral, hfits.1⟩, hfits, hlength⟩

/-- Exactly the texts that spell a number of units are read, if the number is a 64-bit number and, of minutes, comes to
a 64-bit number of seconds. A text spells one number of one unit at most, and is read as exactly as many nanoseconds as
these last, with a 64-bit number of whole seconds. All other texts are errors. -/
theorem parse_reads_exactly (s : String) :
    (∀ d, parse s = .ok d ↔
        ∃ unit n, Spells unit n s.toList ∧ n < wordLimit ∧ (unit = .minutes → 60 * n < wordLimit) ∧
          d.nanos < 1000000000 ∧ d.seconds * 1000000000 + d.nanos = n * unit.nanos) ∧
      (∀ unit n other m, Spells unit n s.toList → Spells other m s.toList → unit = other ∧ n = m) ∧
      (∀ d, parse s = .ok d → d.seconds < wordLimit) ∧
      ((∃ e, parse s = .error e) ↔
        ∀ unit n, Spells unit n s.toList → wordLimit ≤ n ∨ unit = .minutes ∧ wordLimit ≤ 60 * n) := by
  refine ⟨?_, ?_, ?_, ?_⟩
  · intro d
    rw [parse_eq_ok_iff]
    constructor
    · rintro ⟨unit, n, hspells, hfits, hlength⟩
      exact ⟨unit, n, hspells, hfits.1, hfits.2, (unit.length_eq_iff n d).mp hlength⟩
    · rintro ⟨unit, n, hspells, hword, hminutes, hlength⟩
      exact ⟨unit, n, hspells, ⟨hword, hminutes⟩, (unit.length_eq_iff n d).mpr hlength⟩
  · intro unit n other m hspells hother
    obtain ⟨hnumeral, rfl⟩ := spells_iff.mp hspells
    obtain ⟨hnumeral', hunit⟩ := spells_iff.mp hother
    exact ⟨hunit, hnumeral.unique hnumeral'⟩
  · intro d hparse
    obtain ⟨unit, n, -, hfits, rfl⟩ := (parse_eq_ok_iff s d).mp hparse
    exact DurationUnit.length_seconds_lt hfits
  · simp only [← DurationUnit.not_fits_iff]
    constructor
    · rintro ⟨e, he⟩ unit n hspells hfits
      have hok := (parse_eq_ok_iff s _).mpr ⟨unit, n, hspells, hfits, rfl⟩
      cases he.symm.trans hok
    · intro hnone
      cases hparse : parse s with
      | error e => exact ⟨e, rfl⟩
      | ok d =>
          obtain ⟨unit, n, hspells, hfits, -⟩ := (parse_eq_ok_iff s d).mp hparse
          exact absurd hfits (hnone unit n hspells)

end Duration

end SampleLoad
