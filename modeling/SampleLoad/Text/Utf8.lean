/-!
Reading bytes as UTF-8. The bytes fall into units: a well-formed character, or the longest start of one
that the next byte breaks off. A strict reading refuses every broken unit, a lenient one shows it as the
replacement character.
-/

namespace SampleLoad.Utf8

/-- The byte continues a character. -/
def isContinuation (b : UInt8) : Bool := 0x80 ≤ b && b ≤ 0xBF

/-- The second bytes that may follow a first byte of three or four: overlong forms, surrogates and code
points past the last plane are cut off here. -/
def isSecond (first second : UInt8) : Bool :=
  if first = 0xE0 then 0xA0 ≤ second && second ≤ 0xBF
  else if first = 0xED then 0x80 ≤ second && second ≤ 0x9F
  else if first = 0xF0 then 0x90 ≤ second && second ≤ 0xBF
  else if first = 0xF4 then 0x80 ≤ second && second ≤ 0x8F
  else isContinuation second

/-- The six payload bits of a continuation. -/
def payload (b : UInt8) : Nat := b.toNat % 64

/-- The unit that starts with a byte: its character unless it is broken, and how many of the following
bytes belong to it. -/
def unit (first : UInt8) (following : List UInt8) : Option Char × Nat :=
  let lead := first.toNat
  if first < 0x80 then (some (Char.ofNat lead), 0)
  else if 0xC2 ≤ first && first ≤ 0xDF then
    match following with
    | b :: _ => if isContinuation b then (some (Char.ofNat (lead % 32 * 64 + payload b)), 1) else (none, 0)
    | [] => (none, 0)
  else if 0xE0 ≤ first && first ≤ 0xEF then
    match following with
    | b :: c :: _ =>
      if !isSecond first b then (none, 0)
      else if !isContinuation c then (none, 1)
      else (some (Char.ofNat (lead % 16 * 4096 + payload b * 64 + payload c)), 2)
    | [b] => (none, if isSecond first b then 1 else 0)
    | [] => (none, 0)
  else if 0xF0 ≤ first && first ≤ 0xF4 then
    match following with
    | b :: c :: d :: _ =>
      if !isSecond first b then (none, 0)
      else if !isContinuation c then (none, 1)
      else if !isContinuation d then (none, 2)
      else (some (Char.ofNat (lead % 8 * 262144 + payload b * 4096 + payload c * 64 + payload d)), 3)
    | [b, c] => (none, if !isSecond first b then 0 else if !isContinuation c then 1 else 2)
    | [b] => (none, if isSecond first b then 1 else 0)
    | [] => (none, 0)
  else (none, 0)

/-- All units of a byte sequence. -/
def units : List UInt8 → List (Option Char)
  | [] => []
  | first :: following =>
    let (character, taken) := unit first following
    character :: units (following.drop taken)
  termination_by bytes => bytes.length
  decreasing_by
    simp only [List.length_drop, List.length_cons]
    omega

/-- The text, if every unit is a character. -/
def decode? (bytes : List UInt8) : Option String :=
  (units bytes).mapM id |>.map String.ofList

/-- The text with U+FFFD for every broken unit. -/
def decodeLenient (bytes : List UInt8) : String :=
  String.ofList ((units bytes).map (·.getD '\ufffd'))

end SampleLoad.Utf8
