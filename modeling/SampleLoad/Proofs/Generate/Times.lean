import SampleLoad.Generate.RowGenerator

/-!
The times of cursors. A cursor has a time exactly if it and its distance from the base are 64-bit numbers and
the exact result is an instant. The earlier a cursor, the nearer its time to the base, so that the cursors that
have a time come before those that have none.
-/

namespace SampleLoad

theorem inSignedRange_iff (n : Int) : inSignedRange n = true ↔ -(signedLimit : Int) ≤ n ∧ n < signedLimit := by
  unfold inSignedRange
  rw [Bool.and_eq_true, decide_eq_true_iff, decide_eq_true_iff]
  simp only [signedLimit]
  omega

theorem Instant.ofNanos?_eq_some_iff (nanos : Int) (t : Instant) : ofNanos? nanos = some t ↔ t.nanos = nanos := by
  unfold ofNanos?
  constructor
  · intro h
    split at h
    · cases h
      rfl
    · cases h
  · rintro rfl
    rw [dif_pos t.inRange]

namespace RowGenerator

/-- How far the time of a cursor lies before the base, in milliseconds. -/
def distanceAt (g : RowGenerator) (cursor : Nat) : Int := cursor * g.stepMillis

/-- The time of a cursor, by exact arithmetic. -/
theorem cursorTime?_eq_some_iff (g : RowGenerator) (cursor : Nat) (t : Instant) :
    cursorTime? g.baseTime cursor g.stepMillis = some t ↔
      cursor < signedLimit ∧ (-(signedLimit : Int) < g.distanceAt cursor ∧ g.distanceAt cursor < signedLimit) ∧
        t.nanos = g.baseTime.nanos - g.distanceAt cursor * nanosPerMilli := by
  have hcursor := inSignedRange_iff cursor
  have hdistance := inSignedRange_iff (g.distanceAt cursor)
  change (if !inSignedRange cursor then none
    else if !inSignedRange (g.distanceAt cursor) || g.distanceAt cursor = -(signedLimit : Int) then none
    else g.baseTime.minusMillis? (g.distanceAt cursor)) = some t ↔ _
  by_cases hsmall : cursor < signedLimit
  · rw [if_neg (by rw [hcursor.mpr (by omega)]; decide)]
    by_cases hnear : -(signedLimit : Int) < g.distanceAt cursor ∧ g.distanceAt cursor < signedLimit
    · have hleast : g.distanceAt cursor ≠ -(signedLimit : Int) := by omega
      rw [hdistance.mpr (by omega), decide_eq_false hleast, if_neg (by decide), Instant.minusMillis?,
        Instant.ofNanos?_eq_some_iff]
      exact ⟨fun h => ⟨hsmall, hnear, h⟩, fun h => h.2.2⟩
    · have hfar : (!inSignedRange (g.distanceAt cursor) || g.distanceAt cursor = -(signedLimit : Int)) = true := by
        rw [Bool.or_eq_true, Bool.not_eq_true', Bool.eq_false_iff, ne_eq, hdistance, decide_eq_true_iff]
        omega
      rw [if_pos hfar]
      exact ⟨fun h => (nomatch h), fun h => absurd h.2.1 hnear⟩
  · have hlarge : (!inSignedRange cursor) = true := by
      rw [Bool.not_eq_true', Bool.eq_false_iff, ne_eq, hcursor]
      omega
    rw [if_pos hlarge]
    exact ⟨fun h => (nomatch h), fun h => absurd h.1 hsmall⟩

theorem timeAt_eq_ok_iff (g : RowGenerator) (cursor : Nat) (t : Instant) :
    g.timeAt cursor = .ok t ↔ cursorTime? g.baseTime cursor g.stepMillis = some t := by
  unfold timeAt
  cases cursorTime? g.baseTime cursor g.stepMillis <;> simp

/-- The one thing that can be wrong with the time of a cursor. -/
theorem timeAt_error {g : RowGenerator} {cursor : Nat} {e : GeneratorError} (h : g.timeAt cursor = .error e) :
    e = .timestampOutOfRange cursor := by
  unfold timeAt at h
  split at h
  · cases h
  · cases h
    rfl

theorem timeAt_exists_iff (g : RowGenerator) (cursor : Nat) :
    (∃ t, g.timeAt cursor = .ok t) ↔
      cursor < signedLimit ∧ (-(signedLimit : Int) < g.distanceAt cursor ∧ g.distanceAt cursor < signedLimit) ∧
        Instant.InRange (g.baseTime.nanos - g.distanceAt cursor * nanosPerMilli) := by
  constructor
  · rintro ⟨t, ht⟩
    rw [timeAt_eq_ok_iff, cursorTime?_eq_some_iff] at ht
    exact ⟨ht.1, ht.2.1, ht.2.2 ▸ t.inRange⟩
  · rintro ⟨hsmall, hnear, hrange⟩
    refine ⟨⟨_, hrange⟩, ?_⟩
    rw [timeAt_eq_ok_iff, cursorTime?_eq_some_iff]
    exact ⟨hsmall, hnear, rfl⟩

/-- An earlier cursor is no farther from the base, on the same side of it. -/
theorem distanceAt_of_le (g : RowGenerator) {cursor later : Nat} (h : cursor ≤ later) :
    0 ≤ g.distanceAt cursor ∧ g.distanceAt cursor ≤ g.distanceAt later ∨
      g.distanceAt later ≤ g.distanceAt cursor ∧ g.distanceAt cursor ≤ 0 := by
  have hle : (cursor : Int) ≤ later := Int.ofNat_le.mpr h
  unfold distanceAt
  rcases Int.le_total 0 g.stepMillis with hstep | hstep
  · exact .inl ⟨Int.mul_nonneg (Int.natCast_nonneg cursor) hstep, Int.mul_le_mul_of_nonneg_right hle hstep⟩
  · exact .inr ⟨Int.mul_le_mul_of_nonpos_right hle hstep,
      Int.mul_nonpos_of_nonneg_of_nonpos (Int.natCast_nonneg cursor) hstep⟩

/-- The cursors that have a time come first. -/
theorem timeAt_of_le {g : RowGenerator} {cursor later : Nat} (h : cursor ≤ later)
    (hlater : ∃ t, g.timeAt later = .ok t) : ∃ t, g.timeAt cursor = .ok t := by
  rw [timeAt_exists_iff] at hlater ⊢
  obtain ⟨hsmall, hnear, hrange⟩ := hlater
  have hbase := g.baseTime.inRange
  have hdistance := g.distanceAt_of_le h
  simp only [Instant.InRange, nanosPerMilli] at *
  exact ⟨by omega, by omega, by omega⟩

end RowGenerator

end SampleLoad
