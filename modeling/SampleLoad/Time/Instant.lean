/-!
Instants: points on the UTC time line to the nanosecond, from -262143-01-01 up to the end of
+262142-12-31. An instant is its whole number of nanoseconds since 1970, so comparing, truncating and
stepping are arithmetic on integers.
-/

namespace SampleLoad

/-- Nanoseconds of one second. -/
abbrev nanosPerSecond : Int := 1000000000

/-- Nanoseconds of one millisecond. -/
abbrev nanosPerMilli : Int := 1000000

namespace Instant

/-- The first representable instant, in nanoseconds since 1970. -/
abbrev firstNanos : Int := -8334601228800 * nanosPerSecond

/-- The last representable instant, in nanoseconds since 1970. -/
abbrev lastNanos : Int := 8210266876799 * nanosPerSecond + 999999999

/-- The number of nanoseconds since 1970 is that of an instant. -/
abbrev InRange (nanos : Int) : Prop := firstNanos ≤ nanos ∧ nanos ≤ lastNanos

end Instant

/-- A point in time, as nanoseconds since the start of 1970 in UTC. -/
structure Instant where
  nanos : Int
  inRange : Instant.InRange nanos
  deriving DecidableEq

namespace Instant

instance : Inhabited Instant := ⟨0, by decide⟩

/-- The instant a number of nanoseconds after the start of 1970, if there is one. -/
def ofNanos? (nanos : Int) : Option Instant :=
  if h : InRange nanos then some ⟨nanos, h⟩ else none

/-- The instant with the given whole seconds, rounded down, and the nanoseconds beyond them. -/
def ofParts? (seconds : Int) (subsecond : Nat) : Option Instant :=
  ofNanos? (seconds * nanosPerSecond + subsecond)

/-- Whole seconds since 1970, rounded down. -/
def seconds (t : Instant) : Int := t.nanos / nanosPerSecond

/-- Nanoseconds beyond the whole seconds. -/
def subsecond (t : Instant) : Nat := (t.nanos % nanosPerSecond).toNat

/-- The last whole millisecond at or before the instant. -/
def floorMilli (t : Instant) : Instant :=
  ⟨t.nanos - t.nanos % nanosPerMilli, by
    have h := t.inRange
    simp only [InRange, firstNanos, lastNanos, nanosPerSecond, nanosPerMilli] at h ⊢
    omega⟩

/-- The instant is a whole number of milliseconds since 1970. -/
def MilliAligned (t : Instant) : Prop := t.nanos % nanosPerMilli = 0

instance (t : Instant) : Decidable t.MilliAligned := inferInstanceAs (Decidable (_ = _))

/-- The instant a number of milliseconds earlier, if it is representable. -/
def minusMillis? (t : Instant) (millis : Int) : Option Instant :=
  ofNanos? (t.nanos - millis * nanosPerMilli)

end Instant

end SampleLoad
