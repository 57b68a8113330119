import SampleLoad.Generate.Draw
import SampleLoad.Proofs.Number.UnitFraction
import SampleLoad.Proofs.Schema.Validity

/-!
What is drawn from a random source. A number drawn below a bound is below it, though the second word may raise
the result of the first by one; every letter is one of the alphabet; unit fractions come from words that are
short enough. A strategy that was checked against a type therefore draws a value of that type, and the value
lies where the strategy's parameters say. Main statement: `Strategy.draw_of_check`.
-/

namespace SampleLoad

namespace RandomSource

theorem word64_lt (s : RandomSource) : s.word64.1 < wordLimit := by
  have hlow := (s.word.1).toNat_lt
  have hhigh := (s.word.2.word.1).toNat_lt
  change (s.word.2.word.1).toNat * wordSize + (s.word.1).toNat < wordLimit
  simp only [wordSize, wordLimit]
  omega

/-- The carry never leads to the bound: where the first word gives the largest result, too little is left
over for a second word to be taken. -/
theorem below_lt (s : RandomSource) {bound : Nat} (hpositive : 0 < bound) (hbound : bound ≤ wordSize) :
    (s.below bound).1 < bound := by
  have hword : (s.word.1).toNat * bound + bound ≤ wordSize * bound := by
    rw [← Nat.succ_mul]
    exact Nat.mul_le_mul_right _ (s.word.1).toNat_lt
  unfold below
  simp only [wordSize] at *
  generalize (s.word.1).toNat * bound = product at *
  split
  · split
    · dsimp only
      omega
    · dsimp only
      omega
  · dsimp only
    omega

theorem alphabet_isAlphanum : ∀ i : Fin 62, (alphabet[i]).isAlphanum := by decide +kernel

theorem letterOfWord?_isAlphanum {word : UInt32} {c : Char} (h : letterOfWord? word = some c) : c.isAlphanum := by
  obtain ⟨hi, rfl⟩ := Vector.getElem?_eq_some_iff.mp h
  exact alphabet_isAlphanum ⟨_, hi⟩

theorem letterWithin_isAlphanum (patience : Nat) (s : RandomSource) : (letterWithin patience s).1.isAlphanum := by
  induction patience generalizing s with
  | zero => exact alphabet_isAlphanum 0
  | succ patience ih =>
      unfold letterWithin
      cases hletter : letterOfWord? s.word.1 with
      | some c =>
          simp only [hletter]
          exact letterOfWord?_isAlphanum hletter
      | none =>
          simp only [hletter]
          exact ih _

theorem lettersBehind_spec (count : Nat) {drawn : List Char} (hdrawn : ∀ c ∈ drawn, c.isAlphanum)
    (s : RandomSource) :
    (lettersBehind count drawn s).1.length = drawn.length + count ∧
      ∀ c ∈ (lettersBehind count drawn s).1, c.isAlphanum := by
  induction count generalizing drawn s with
  | zero => simpa [lettersBehind] using hdrawn
  | succ count ih =>
      have hbehind : ∀ c ∈ s.letter.1 :: drawn, c.isAlphanum := by
        intro c hc
        rcases List.mem_cons.mp hc with rfl | hrest
        · exact letterWithin_isAlphanum _ s
        · exact hdrawn c hrest
      obtain ⟨hlength, hletters⟩ := ih hbehind s.letter.2
      rw [List.length_cons] at hlength
      exact ⟨by rw [lettersBehind, hlength]; omega, hletters⟩

theorem letters_spec (count : Nat) (s : RandomSource) :
    (s.letters count).1.length = count ∧ ∀ c ∈ (s.letters count).1, c.isAlphanum := by
  obtain ⟨hlength, hletters⟩ := @lettersBehind_spec count [] (by simp) s
  exact ⟨by simpa [letters] using hlength, hletters⟩

theorem unitDouble_spec (s : RandomSource) :
    s.unitDouble.1.isFinite ∧ 0 ≤ s.unitDouble.1.value ∧ s.unitDouble.1.value < 1 := by
  have hshort : s.word64.1 >>> 11 < 9007199254740992 := by
    have hword := s.word64_lt
    rw [Nat.shiftRight_eq_div_pow]
    simp only [wordLimit] at hword
    omega
  exact ⟨Double.ofUnitFraction_isFinite hshort, Double.ofUnitFraction_inUnit hshort⟩

theorem unitFloat_spec (s : RandomSource) :
    s.unitFloat.1.isFinite ∧ 0 ≤ s.unitFloat.1.value ∧ s.unitFloat.1.value < 1 := by
  have hshort : (s.word.1).toNat >>> 8 < 16777216 := by
    have hword := (s.word.1).toNat_lt
    rw [Nat.shiftRight_eq_div_pow]
    omega
  exact ⟨Single.ofUnitFraction_isFinite hshort, Single.ofUnitFraction_inUnit hshort⟩

end RandomSource

theorem addSaturating_toInt {a b : Int32} (hlow : -2147483648 ≤ a.toInt + b.toInt)
    (hhigh : a.toInt + b.toInt ≤ 2147483647) : (addSaturating a b).toInt = a.toInt + b.toInt := by
  unfold addSaturating
  rw [if_neg (by omega), if_neg (by omega)]
  apply Int32.toInt_ofInt_of_le
  · omega
  · omega

/-- What a strategy makes of a source, at a time that is given to timestamp columns. -/
inductive Drawn (time? : Option Instant) (source : RandomSource) : Strategy → Value → Prop where
  | cursor {t : Instant} (htime : time? = some t) : Drawn time? source .cursor (.timestamp t)
  /-- The number drawn plus the bias, which is in range without being cut off. -/
  | uniformInt {bound bias n : Int32} (hvalue : n.toInt = (source.below bound.toInt.toNat).1 + bias.toInt)
    (hrange : bias.toInt ≤ n.toInt ∧ n.toInt ≤ bias.toInt + bound.toInt - 1) :
    Drawn time? source (.uniformInt bound bias) (.integer n)
  /-- The stem and then a number in decimal, which is a sum of 64-bit numbers. -/
  | token {stem : String} {base spread : Int32} {n : Int}
    (hvalue : n = base.toInt + (source.below spread.toInt.toNat).1)
    (hrange : base.toInt ≤ n ∧ n ≤ base.toInt + spread.toInt - 1)
    (hword : -(signedLimit : Int) ≤ n ∧ n < signedLimit) :
    Drawn time? source (.token stem base spread) (.string (stem ++ toString n))
  | alphanumeric {length : UInt64} {text : String} (hlength : text.length = length.toNat)
    (hletters : ∀ c ∈ text.toList, c.isAlphanum) :
    Drawn time? source (.alphanumeric length) (.string text)
  | coinFlip (b : Bool) : Drawn time? source .coinFlip (.bool b)
  | unitDouble {d : Double} (hfinite : d.isFinite) (hvalue : 0 ≤ d.value ∧ d.value < 1) :
    Drawn time? source .unitDouble (.double d)
  | unitFloat {f : Single} (hfinite : f.isFinite) (hvalue : 0 ≤ f.value ∧ f.value < 1) :
    Drawn time? source .unitFloat (.float f)

theorem Drawn.time_eq {time? : Option Instant} {source : RandomSource} {s : Strategy} {t : Instant}
    (h : Drawn time? source s (.timestamp t)) : time? = some t := by
  cases h with
  | cursor htime => exact htime

namespace Strategy

theorem drawBelow_of_positive {bound : Int32} (hbound : 0 < bound.toInt) (source : RandomSource) :
    drawBelow bound source = (.ok (source.below bound.toInt.toNat).1, (source.below bound.toInt.toNat).2) := by
  unfold drawBelow
  rw [if_neg (by rw [le_zero_iff_toInt]; omega)]

theorem below_lt_toInt {bound : Int32} (hbound : 0 < bound.toInt) (source : RandomSource) :
    ((source.below bound.toInt.toNat).1 : Int) < bound.toInt := by
  have hlimit := bound.toInt_lt
  have hpositive : 0 < bound.toInt.toNat := by omega
  have hbelow := source.below_lt hpositive (by simp only [RandomSource.wordSize]; omega)
  omega

/-- Only the strategy of timestamp columns looks at the time. -/
theorem draw_time_irrelevant {s : Strategy} (hs : s ≠ .cursor) (time? other? : Option Instant)
    (source : RandomSource) : s.draw time? source = s.draw other? source := by
  cases s with
  | cursor => exact absurd rfl hs
  | _ => rfl

/-- A strategy that passes the check for a type draws a value of that type. -/
theorem draw_of_check {s : Strategy} {t : ColumnType} (hcheck : s.check t = .ok ()) {time? : Option Instant}
    (htime : t = .timestamp → ∃ time, time? = some time) (source : RandomSource) :
    ∃ value, (s.draw time? source).1 = .ok value ∧ value.type = t ∧ Drawn time? source s value := by
  obtain ⟨rfl, hrange⟩ := (s.check_eq_ok_iff t).mp hcheck
  cases s with
  | cursor =>
      obtain ⟨time, rfl⟩ := htime rfl
      exact ⟨.timestamp time, rfl, rfl, .cursor rfl⟩
  | uniformInt bound bias =>
      obtain ⟨hbound, hend⟩ := hrange
      have hbelow := below_lt_toInt hbound source
      have hlimit := bound.toInt_lt
      have hbias := bias.le_toInt
      have hdrawn : (Int32.ofNat (source.below bound.toInt.toNat).1).toInt = (source.below bound.toInt.toNat).1 :=
        Int32.toInt_ofNat_of_lt (by omega)
      have hsum : (addSaturating (.ofNat (source.below bound.toInt.toNat).1) bias).toInt =
          (source.below bound.toInt.toNat).1 + bias.toInt := by
        rw [addSaturating_toInt (by omega) (by omega), hdrawn]
      refine ⟨.integer (addSaturating (.ofNat (source.below bound.toInt.toNat).1) bias), ?_, rfl,
        .uniformInt hsum ⟨by omega, by omega⟩⟩
      simp only [draw, drawBelow_of_positive hbound]
      rfl
  | token stem base spread =>
      have hbelow := below_lt_toInt hrange source
      have hlimit := spread.toInt_lt
      have hlow := base.le_toInt
      have hhigh := base.toInt_lt
      refine ⟨.string (stem ++ toString (base.toInt + (source.below spread.toInt.toNat).1)), ?_, rfl,
        .token rfl ⟨by omega, by omega⟩ ⟨by simp only [signedLimit]; omega, by simp only [signedLimit]; omega⟩⟩
      simp only [draw, drawBelow_of_positive hrange]
      rfl
  | alphanumeric length =>
      obtain ⟨hlength, hletters⟩ := source.letters_spec length.toNat
      refine ⟨.string (.ofList (source.letters length.toNat).1), rfl, rfl, .alphanumeric ?_ ?_⟩
      · rw [String.length_ofList, hlength]
      · rw [String.toList_ofList]
        exact hletters
  | coinFlip => exact ⟨_, rfl, rfl, .coinFlip _⟩
  | unitDouble =>
      obtain ⟨hfinite, hvalue⟩ := source.unitDouble_spec
      exact ⟨_, rfl, rfl, .unitDouble hfinite hvalue⟩
  | unitFloat =>
      obtain ⟨hfinite, hvalue⟩ := source.unitFloat_spec
      exact ⟨_, rfl, rfl, .unitFloat hfinite hvalue⟩

end Strategy

end SampleLoad
