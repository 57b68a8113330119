import SampleLoad.Number.Reader

/-!
Percent encoding. A character outside a set is kept; one inside is written as its UTF-8 bytes, each as a
percent sign and two digits. Characters beyond ASCII are in every set.
-/

namespace SampleLoad.Percent

def upperHexDigit (n : Nat) : Char := (Nat.digitChar (n % 16)).toUpper

/-- A byte as a percent sign and two digits. -/
def encodeByte (b : UInt8) : List Char := ['%', upperHexDigit (b.toNat / 16), upperHexDigit b.toNat]

/-- A character, encoded if it is in the set. -/
def encodeChar (reserved : Char → Bool) (c : Char) : List Char :=
  if 0x80 ≤ c.toNat || reserved c then (String.utf8EncodeChar c).flatMap encodeByte else [c]

def encode (reserved : Char → Bool) (cs : List Char) : List Char := cs.flatMap (encodeChar reserved)

/-- Control characters and the delete character. -/
def control (c : Char) : Bool := c.toNat < 0x20 || c.toNat = 0x7F

/-- The characters that a fragment cannot hold. -/
def fragment (c : Char) : Bool := control c || c ∈ [' ', '"', '<', '>', '\x60']

/-- The characters that a query cannot hold. -/
def query (c : Char) : Bool := control c || c ∈ [' ', '"', '#', '<', '>']

/-- The characters that the query of a web URL cannot hold. -/
def specialQuery (c : Char) : Bool := query c || c = '\''

/-- The characters that a path cannot hold. -/
def path (c : Char) : Bool := fragment c || c ∈ ['#', '?', '\x7b', '\x7d']

/-- The characters that a user name or a password cannot hold. -/
def userinfo (c : Char) : Bool := path c || c ∈ ['/', ':', ';', '=', '@', '[', '\\', ']', '^', '|']

/-- The characters that one segment of a path cannot hold. -/
def segment (c : Char) : Bool := path c || c = '/' || c = '%'

/-- The characters that one segment of the path of a web URL cannot hold. -/
def specialSegment (c : Char) : Bool := segment c || c = '\\'

/-- The bytes that a text stands for: a percent sign and two digits are one byte, and all else is the bytes
of its characters. -/
def decode : List Char → List UInt8
  | '%' :: a :: b :: rest =>
    match hexDigitValue? a, hexDigitValue? b with
    | some high, some low => .ofNat (high * 16 + low) :: decode rest
    | _, _ => '%'.toUInt8 :: decode (a :: b :: rest)
  | c :: rest => String.utf8EncodeChar c ++ decode rest
  | [] => []

end SampleLoad.Percent
