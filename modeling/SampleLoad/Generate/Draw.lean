import SampleLoad.Generate.RandomSource
import SampleLoad.Rows.Value
import SampleLoad.Schema.Strategy

/-!
Drawing one value by a strategy. A strategy that was checked against its type always has a value to draw;
unchecked, it may have an empty range or want a time that is not given.
-/

namespace SampleLoad

/-- Why a strategy has no value. -/
inductive DrawFault where
  | noCursorTime
  /-- The range to draw from is empty. -/
  | emptyRange
  deriving DecidableEq, Repr

namespace Strategy

/-- Draws a number below a bound; there is none below a bound that is not positive. -/
def drawBelow (bound : Int32) (source : RandomSource) : Except DrawFault Nat × RandomSource :=
  if bound ≤ 0 then (.error .emptyRange, source)
  else
    let (n, source) := source.below bound.toInt.toNat
    (.ok n, source)

/-- Draws a value. The cursor's time is not random and takes no words. -/
def draw (s : Strategy) (time? : Option Instant) (source : RandomSource) :
    Except DrawFault Value × RandomSource :=
  match s with
  | cursor =>
    match time? with
    | some time => (.ok (.timestamp time), source)
    | none => (.error .noCursorTime, source)
  | uniformInt bound bias =>
    let (drawn, source) := drawBelow bound source
    (drawn.map fun n => .integer (addSaturating (.ofNat n) bias), source)
  | token stem base spread =>
    let (drawn, source) := drawBelow spread source
    (drawn.map fun n => .string (stem ++ toString (base.toInt + n)), source)
  | alphanumeric length =>
    let (letters, source) := source.letters length.toNat
    (.ok (.string (.ofList letters)), source)
  | coinFlip =>
    let (b, source) := source.coin
    (.ok (.bool b), source)
  | unitDouble =>
    let (d, source) := source.unitDouble
    (.ok (.double d), source)
  | unitFloat =>
    let (f, source) := source.unitFloat
    (.ok (.float f), source)

end Strategy

end SampleLoad
