import SampleLoad.Number.Reader
import SampleLoad.Text.Blank

/-!
Lengths of time. A duration is written as a whole number and a unit: milliseconds, seconds or minutes,
seconds when no unit is given. White space around it is dropped.
-/

namespace SampleLoad

/-- A length of time, to the nanosecond. -/
structure Duration where
  seconds : Nat
  nanos : Nat
  deriving DecidableEq, Repr

/-- Why a text is not a duration. -/
inductive DurationError where
  | empty
  | milliseconds (number : String) (fault : NumberFault)
  | minutes (number : String) (fault : NumberFault)
  | minutesOutOfRange (number : String)
  | seconds (text : String) (fault : NumberFault)
  deriving DecidableEq

namespace DurationError

/-- The message, from the outside in. -/
def chain : DurationError → List String
  | empty => ["Empty duration string"]
  | milliseconds number fault => ["Invalid milliseconds value: " ++ number, fault.message]
  | minutes number fault => ["Invalid minutes value: " ++ number, fault.message]
  | minutesOutOfRange number => ["Minutes value out of range: " ++ number]
  | seconds text fault => ["Invalid duration value: " ++ text, fault.message]

end DurationError

namespace Duration

def ofMillis (n : Nat) : Duration := ⟨n / 1000, n % 1000 * 1000000⟩
def ofSeconds (n : Nat) : Duration := ⟨n, 0⟩

/-- What stands before an ending, if the text has it. -/
def withoutEnding? (ending cs : List Char) : Option (List Char) :=
  if ending.isSuffixOf cs then some (cs.take (cs.length - ending.length)) else none

/-- Reads a duration whose surrounding white space is gone. -/
def readTrimmed (cs : List Char) : Except DurationError Duration :=
  if cs = [] then .error .empty
  else match withoutEnding? ['m', 's'] cs with
    | some number =>
      match readNat wordLimit number with
      | .error fault => .error (.milliseconds (.ofList number) fault)
      | .ok n => .ok (ofMillis n)
    | none =>
      match withoutEnding? ['m'] cs with
      | some number =>
        match readNat wordLimit number with
        | .error fault => .error (.minutes (.ofList number) fault)
        | .ok n =>
          if n * 60 < wordLimit then .ok (ofSeconds (n * 60))
          else .error (.minutesOutOfRange (.ofList number))
      | none =>
        match readNat wordLimit ((withoutEnding? ['s'] cs).getD cs) with
        | .error fault => .error (.seconds (.ofList cs) fault)
        | .ok n => .ok (ofSeconds n)

/-- Reads a duration such as `500ms`, `30s`, `2m` or `30`. -/
def parse (s : String) : Except DurationError Duration := readTrimmed (trimBoth isBlank s.toList)

/-- A whole part and the decimals that follow it, without zeros at the end. -/
def decimalText (whole fraction width : Nat) : String :=
  let digits := Nat.toDigits 10 fraction
  let padded := List.replicate (width - digits.length) '0' ++ digits
  let decimals := (padded.reverse.dropWhile (· = '0')).reverse
  toString whole ++ (if decimals.isEmpty then "" else "." ++ String.ofList decimals)

/-- The duration in the largest unit of which it holds at least one. -/
def text (d : Duration) : String :=
  if 0 < d.seconds then decimalText d.seconds d.nanos 9 ++ "s"
  else if 1000000 ≤ d.nanos then decimalText (d.nanos / 1000000) (d.nanos % 1000000) 6 ++ "ms"
  else if 1000 ≤ d.nanos then decimalText (d.nanos / 1000) (d.nanos % 1000) 3 ++ "µs"
  else decimalText d.nanos 0 0 ++ "ns"

/-- The duration in seconds, as a floating point number: whole seconds plus nanoseconds over a billion. -/
def toFloat (d : Duration) : Float :=
  (UInt64.ofNat d.seconds).toFloat + (UInt64.ofNat d.nanos).toFloat / 1000000000

end Duration

end SampleLoad
