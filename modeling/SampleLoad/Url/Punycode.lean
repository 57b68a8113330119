/-!
Words in any characters, written with small letters, digits and hyphens alone. The characters of ASCII come
first, with a hyphen after them. The others follow in ascending order of code and place, each as the number
of steps that lead to it from the one before: a step goes to the next place of the word as it is known so
far, and from its end to the next code. The numbers are in base 36, least weight first, and a digit below a
threshold ends its number; the thresholds move with a bias that follows the size of the last number.
-/

namespace SampleLoad.Punycode

def isBasic (c : Char) : Bool := c.toNat < 0x80

/-- The digit of a value below 36: letters first, figures after them. -/
def digit (value : Nat) : Char :=
  if value < 26 then Char.ofNat ('a'.toNat + value) else Char.ofNat ('0'.toNat + (value - 26))

def digitValue? (c : Char) : Option Nat :=
  if c.isAlpha then some (c.toLower.toNat - 'a'.toNat)
  else if c.isDigit then some (c.toNat - '0'.toNat + 26)
  else none

/-- The least digit that does not end a number at a position; positions count from 36 in steps of 36. -/
def threshold (bias position : Nat) : Nat := max 1 (min 26 (position - bias))

theorem threshold_pos (bias position : Nat) : 1 ≤ threshold bias position := Nat.le_max_left ..

/-- The digits of a number from a position on. -/
def numeral (bias position value : Nat) : List Char :=
  let least := threshold bias position
  if value < least then [digit value]
  else
    digit (least + (value - least) % (36 - least)) ::
      numeral bias (position + 36) ((value - least) / (36 - least))
termination_by value
decreasing_by
  have positive := threshold_pos bias position
  have smaller := Nat.div_le_self (value - threshold bias position) (36 - threshold bias position)
  omega

/-- The bias that suits numbers of a size. -/
def biasFor (size : Nat) : Nat :=
  if 455 < size then 36 + biasFor (size / 35) else 36 * size / (size + 38)
termination_by size
decreasing_by omega

/-- The bias after a number of steps to a word of `known` characters. The first number of a word is far
larger than those after it. -/
def nextBias (steps known : Nat) (isFirst : Bool) : Nat :=
  let scaled := if isFirst then steps / 700 else steps / 2
  biasFor (scaled + scaled / known)

/-- A word in the middle of being written: its digits so far, the steps since the last one, how many of its
characters are known, and from which code on the others are. -/
structure Writing where
  digits : List Char
  steps : Nat
  known : Nat
  code : Nat
  bias : Nat
  isFirst : Bool

namespace Writing

/-- Passes one character of the word, which is written if its turn has come. -/
def pass (w : Writing) (c : Char) : Writing :=
  if c.toNat < w.code then { w with steps := w.steps + 1 }
  else if c.toNat = w.code then
    { w with
      digits := w.digits ++ numeral w.bias 36 w.steps
      steps := 0
      known := w.known + 1
      bias := nextBias w.steps (w.known + 1) w.isFirst
      isFirst := false }
  else w

/-- Goes on to a code and writes all its characters. -/
def writeCode (word : List Char) (w : Writing) (code : Nat) : Writing :=
  let reached := { w with steps := w.steps + (code - w.code) * (w.known + 1), code := code }
  let written := word.foldl pass reached
  { written with steps := written.steps + 1, code := code + 1 }

end Writing

def encode (word : List Char) : List Char :=
  let basic := word.filter isBasic
  let codes := ((word.filter fun c => !isBasic c).map Char.toNat).mergeSort.eraseDups
  let start : Writing := ⟨[], 0, basic.length, 0x80, 72, true⟩
  let written := codes.foldl (Writing.writeCode word) start
  (if basic.isEmpty then [] else basic ++ ['-']) ++ written.digits

/-- A word in the middle of being read: its characters so far, the place and the code of the next one, and
the number begun, with the weight and the position of its next digit. -/
structure Reading where
  word : List Char
  place : Nat
  code : Nat
  bias : Nat
  isFirst : Bool
  steps : Nat
  weight : Nat
  position : Nat

namespace Reading

/-- Reads a digit; one that ends its number puts a character into the word. -/
def step? (r : Reading) (c : Char) : Option Reading := do
  let value ← digitValue? c
  let least := threshold r.bias r.position
  let steps := r.steps + value * r.weight
  if least ≤ value then
    pure { r with steps := steps, weight := r.weight * (36 - least), position := r.position + 36 }
  else
    let known := r.word.length + 1
    let reached := r.place + steps
    let code := r.code + reached / known
    let place := reached % known
    if code.isValidChar then
      pure ⟨r.word.insertIdx place (Char.ofNat code), place + 1, code, nextBias steps known r.isFirst,
        false, 0, 1, 36⟩
    else none

end Reading

/-- The word that a text is written for. The last hyphen ends the part in ASCII, which is not empty if there
is one. -/
def decode? (text : List Char) : Option (List Char) := do
  let tail := (text.reverse.takeWhile (· ≠ '-')).reverse
  let basic := text.take (text.length - tail.length - 1)
  let digits := if basic.isEmpty then text else tail
  guard (basic.all isBasic)
  let r ← digits.foldlM Reading.step? ⟨basic, 0, 0x80, 72, true, 0, 1, 36⟩
  if r.position = 36 then some r.word else none

end SampleLoad.Punycode
