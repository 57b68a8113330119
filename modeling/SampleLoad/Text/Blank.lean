/-!
White space as the Unicode standard lists it, and trimming it from both ends of a text.
-/

namespace SampleLoad

/-- The characters with the property White_Space. -/
def isBlank (c : Char) : Bool :=
  let n := c.toNat
  (9 ≤ n && n ≤ 13) || n = 0x20 || n = 0x85 || n = 0xA0 || n = 0x1680 ||
    (0x2000 ≤ n && n ≤ 0x200A) || n = 0x2028 || n = 0x2029 || n = 0x202F || n = 0x205F || n = 0x3000

/-- Drops the characters of a class from both ends. -/
def trimBoth (unwanted : Char → Bool) (cs : List Char) : List Char :=
  ((cs.dropWhile unwanted).reverse.dropWhile unwanted).reverse

/-- The text without white space at its ends. -/
def trimBlank (s : String) : String := String.ofList (trimBoth isBlank s.toList)

end SampleLoad
