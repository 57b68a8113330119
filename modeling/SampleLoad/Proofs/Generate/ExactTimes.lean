import SampleLoad.Proofs.Generate.Times

/-!
The times of a generator, with nothing lost on the way. Between the instants that there are lie fewer than 2^63
milliseconds, and a step is at least one, so a cursor whose exact time is an instant is a 64-bit number and so is
its distance from the base. Main statement: `RowGenerator.timeAt_exact`.
-/

namespace SampleLoad

theorem Instant.floorMilli_nanos (t : Instant) :
    t.floorMilli.nanos = t.nanos / nanosPerMilli * nanosPerMilli := by
  have hsplit := Int.mul_ediv_add_emod t.nanos nanosPerMilli
  change t.nanos - t.nanos % nanosPerMilli = _
  rw [Int.mul_comm (t.nanos / nanosPerMilli)]
  omega

namespace RowGenerator

/-- The time of a cursor in nanoseconds, for a base that is cut to whole milliseconds. -/
def exactNanos (base : Instant) (stepMillis : Int) (cursor : Nat) : Int :=
  (base.nanos / nanosPerMilli - cursor * stepMillis) * nanosPerMilli

/-- No step from a cursor to its time leaves the signed 64-bit numbers or the lengths of time. -/
structure StepsInRange (g : RowGenerator) (cursor : Nat) : Prop where
  number : inSignedRange cursor
  distance : inSignedRange (g.distanceAt cursor)
  length : g.distanceAt cursor ≠ -(signedLimit : Int)

theorem stepMillis_withStep_pos (g : RowGenerator) (stepNanos : Int) : 1 ≤ (g.withStep stepNanos).stepMillis :=
  Int.le_max_left _ _

section Step

variable {g : RowGenerator} (hstep : 1 ≤ g.stepMillis)

include hstep

theorem cursor_le_distanceAt (cursor : Nat) : (cursor : Int) ≤ g.distanceAt cursor := by
  calc (cursor : Int) = cursor * 1 := (Int.mul_one _).symm
    _ ≤ cursor * g.stepMillis := Int.mul_le_mul_of_nonneg_left hstep (Int.natCast_nonneg cursor)

theorem distanceAt_lt {cursor later : Nat} (h : cursor < later) : g.distanceAt cursor < g.distanceAt later := by
  apply Int.mul_lt_mul_of_pos_right
  · exact Int.ofNat_lt.mpr h
  · omega

/-- An instant at the exact time of a cursor is near enough for every step on the way. -/
theorem stepsInRange_of_inRange {cursor : Nat}
    (h : Instant.InRange (g.baseTime.nanos - g.distanceAt cursor * nanosPerMilli)) : g.StepsInRange cursor := by
  have hbase := g.baseTime.inRange
  have hcursor := cursor_le_distanceAt hstep cursor
  have hnear : g.distanceAt cursor < signedLimit := by
    simp only [Instant.InRange, Instant.firstNanos, Instant.lastNanos, nanosPerSecond, nanosPerMilli] at h hbase
    simp only [signedLimit]
    omega
  exact ⟨(inSignedRange_iff _).mpr (by omega), (inSignedRange_iff _).mpr (by omega), by omega⟩

theorem timeAt_eq_ok_iff_exact (cursor : Nat) (t : Instant) :
    g.timeAt cursor = .ok t ↔ t.nanos = g.baseTime.nanos - g.distanceAt cursor * nanosPerMilli := by
  rw [timeAt_eq_ok_iff, cursorTime?_eq_some_iff]
  constructor
  · intro h
    exact h.2.2
  · intro ht
    obtain ⟨hcursor, hdistance, hlength⟩ := stepsInRange_of_inRange hstep (ht ▸ t.inRange)
    rw [inSignedRange_iff] at hcursor hdistance
    exact ⟨by omega, by omega, ht⟩

theorem timeAt_exists_iff_exact (cursor : Nat) :
    (∃ t, g.timeAt cursor = .ok t) ↔ Instant.InRange (g.baseTime.nanos - g.distanceAt cursor * nanosPerMilli) := by
  simp only [timeAt_eq_ok_iff_exact hstep]
  constructor
  · rintro ⟨t, ht⟩
    exact ht ▸ t.inRange
  · intro hrange
    exact ⟨⟨_, hrange⟩, rfl⟩

end Step

theorem baseTime_sub_distanceAt (base : Instant) (stepNanos : Int) (cursor : Nat) :
    ((startingAt base).withStep stepNanos).baseTime.nanos -
        ((startingAt base).withStep stepNanos).distanceAt cursor * nanosPerMilli =
      exactNanos base ((startingAt base).withStep stepNanos).stepMillis cursor := by
  rw [exactNanos, Int.sub_mul, distanceAt, ← Instant.floorMilli_nanos]
  rfl

/-- A cursor has a time exactly if the instant that many steps before the base, cut to whole milliseconds, is
one that there is; then that is its time, and otherwise the error names the cursor. The cursors with a time come
first, and their times go back strictly. -/
theorem timeAt_exact (base : Instant) (stepNanos : Int) :
    let g := (startingAt base).withStep stepNanos
    1 ≤ g.stepMillis ∧
      (∀ cursor,
        ((∃ t, g.timeAt cursor = .ok t) ↔ Instant.InRange (exactNanos base g.stepMillis cursor)) ∧
          (∀ t, g.timeAt cursor = .ok t → t.nanos = exactNanos base g.stepMillis cursor) ∧
          (¬Instant.InRange (exactNanos base g.stepMillis cursor) →
            g.timeAt cursor = .error (.timestampOutOfRange cursor)) ∧
          (Instant.InRange (exactNanos base g.stepMillis cursor) → g.StepsInRange cursor)) ∧
      (∀ earlier later, earlier ≤ later → (∃ t, g.timeAt later = .ok t) → ∃ t, g.timeAt earlier = .ok t) ∧
      ∀ earlier later first second, earlier < later → g.timeAt earlier = .ok first →
        g.timeAt later = .ok second → second.nanos < first.nanos := by
  intro g
  have hstep : 1 ≤ g.stepMillis := stepMillis_withStep_pos _ stepNanos
  have hexact (cursor : Nat) (t : Instant) :
      g.timeAt cursor = .ok t ↔ t.nanos = exactNanos base g.stepMillis cursor := by
    rw [timeAt_eq_ok_iff_exact hstep, ← baseTime_sub_distanceAt]
  refine ⟨hstep, ?_, ?_, ?_⟩
  · intro cursor
    have hhas : (∃ t, g.timeAt cursor = .ok t) ↔ Instant.InRange (exactNanos base g.stepMillis cursor) := by
      simp only [hexact]
      constructor
      · rintro ⟨t, ht⟩
        exact ht ▸ t.inRange
      · intro hrange
        exact ⟨⟨_, hrange⟩, rfl⟩
    refine ⟨hhas, fun t => (hexact cursor t).mp, ?_, ?_⟩
    · intro hnot
      cases htime : g.timeAt cursor with
      | ok t => exact absurd (hhas.mp ⟨t, htime⟩) hnot
      | error e => rw [timeAt_error htime]
    · intro hrange
      rw [← baseTime_sub_distanceAt] at hrange
      exact stepsInRange_of_inRange hstep hrange
  · intro earlier later hle hlater
    exact timeAt_of_le hle hlater
  · intro earlier later first second hlt hfirst hsecond
    rw [timeAt_eq_ok_iff_exact hstep] at hfirst hsecond
    have hdistance := distanceAt_lt hstep hlt
    simp only [nanosPerMilli] at hfirst hsecond
    omega

-- A base before 1970 is cut down, away from it, and half a millisecond is no step.
example : ((startingAt ⟨-1500000, by decide⟩).withStep 500000).timeAt 1 = .ok ⟨-3000000, by decide⟩ := rfl

end RowGenerator

end SampleLoad
