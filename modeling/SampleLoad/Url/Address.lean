import SampleLoad.Url.Percent

/-!
Numeric host addresses. An IPv4 address has up to four parts, each decimal, octal or hexadecimal, of which
the last fills the remaining bytes. An IPv6 address has eight pieces of 16 bits; one run of zeros may be
left out, and the last two pieces may be written as an IPv4 address.
-/

namespace SampleLoad

/-- Splits a text at every occurrence of a character. -/
def splitAll (separator : Char) : List Char → List (List Char)
  | [] => [[]]
  | c :: rest =>
    if c = separator then [] :: splitAll separator rest
    else match splitAll separator rest with
      | [] => [[c]]
      | first :: others => (c :: first) :: others

namespace Ipv4

/-- The value of digits in a base, if they are digits of it. -/
def digitsValue? (base : Nat) (cs : List Char) : Option Nat :=
  cs.foldlM (fun n c => (hexDigitValue? c).bind fun d => if d < base then some (n * base + d) else none) 0

/-- A part: hexadecimal after `0x`, octal after another zero in front, else decimal. -/
def part? (cs : List Char) : Option Nat :=
  match cs with
  | [] => none
  | '0' :: 'x' :: digits | '0' :: 'X' :: digits => digitsValue? 16 digits
  | '0' :: d :: digits => digitsValue? 8 (d :: digits)
  | cs => digitsValue? 10 cs

/-- The parts of a host, without the empty one behind a dot at the end. -/
def parts (cs : List Char) : List (List Char) :=
  let all := splitAll '.' cs
  if 1 < all.length && all.getLast? = some [] then all.dropLast else all

/-- The host ends in a number, and so must be an address. -/
def endsInNumber (cs : List Char) : Bool :=
  match (parts cs).getLast? with
  | none => false
  | some last => (last ≠ [] && last.all Char.isDigit) || (part? last).isSome

/-- The 32 bits of an address. -/
def address? (cs : List Char) : Option Nat := do
  let parts := parts cs
  if 4 < parts.length then none
  let numbers ← parts.mapM part?
  let last ← numbers.getLast?
  let heads := numbers.dropLast
  if Nat.pow 256 (4 - heads.length) ≤ last || heads.any (255 < ·) then none
  some (heads.zipIdx.foldl (fun sum (n, i) => sum + n * Nat.pow 256 (3 - i)) last)

/-- Four decimal numbers with dots between. -/
def text (address : Nat) : String :=
  ".".intercalate ([16777216, 65536, 256, 1].map fun unit => toString (address / unit % 256))

end Ipv4

namespace Ipv6

/-- One to four hexadecimal digits. -/
def piece? (cs : List Char) : Option Nat :=
  if cs ≠ [] && cs.length ≤ 4 then Ipv4.digitsValue? 16 cs else none

/-- A decimal number up to 255 without needless zeros. -/
def octet? (cs : List Char) : Option Nat :=
  if cs = [] || 3 < cs.length || (1 < cs.length && cs.head? = some '0') then none
  else (Ipv4.digitsValue? 10 cs).bind fun n => if n ≤ 255 then some n else none

/-- Four decimal numbers with dots between, as two pieces. -/
def dotted? (cs : List Char) : Option (List Nat) :=
  match (splitAll '.' cs).mapM octet? with
  | some [a, b, c, d] => some [a * 256 + b, c * 256 + d]
  | _ => none

/-- Pieces with colons between; the last one may be in dotted form where that is allowed. -/
def pieces? (dottedEnd : Bool) : List (List Char) → Option (List Nat)
  | [] => some []
  | [last] =>
    if dottedEnd && last.contains '.' then dotted? last else (piece? last).map ([·])
  | p :: rest => do some ((← piece? p) :: (← pieces? dottedEnd rest))

/-- A run of pieces, which may be empty. -/
def run? (dottedEnd : Bool) (cs : List Char) : Option (List Nat) :=
  if cs = [] then some [] else pieces? dottedEnd (splitAll ':' cs)

/-- What stands before and after the first double colon. -/
def splitDouble : List Char → Option (List Char × List Char)
  | ':' :: ':' :: rest => some ([], rest)
  | c :: rest => (splitDouble rest).map fun (before, after) => (c :: before, after)
  | [] => none

/-- The eight pieces of an address. -/
def address? (cs : List Char) : Option (List Nat) :=
  match splitDouble cs with
  | none => do
    let all ← run? true cs
    if all.length = 8 then some all else none
  | some (before, after) => do
    let before ← run? false before
    let after ← run? true after
    let missing := 8 - (before.length + after.length)
    if missing = 0 then none else some (before ++ List.replicate missing 0 ++ after)

/-- The number of zeros in front. -/
def zeros (pieces : List Nat) : Nat := (pieces.takeWhile (· = 0)).length

/-- The start and the length of the first longest run of zeros. -/
def longestZeros : (index : Nat) → List Nat → Nat × Nat
  | _, [] => (0, 0)
  | index, pieces@(_ :: rest) =>
    let (start, length) := longestZeros (index + 1) rest
    if length ≤ zeros pieces then (index, zeros pieces) else (start, length)

/-- A piece in lower-case hexadecimal. -/
def pieceText (n : Nat) : String := String.ofList (Nat.toDigits 16 n)

/-- The pieces with colons between; the first longest run of two or more zeros becomes a double colon. -/
def text (pieces : List Nat) : String :=
  let (start, length) := longestZeros 0 pieces
  let join (ps : List Nat) : String := ":".intercalate (ps.map pieceText)
  if length < 2 then join pieces
  else join (pieces.take start) ++ "::" ++ join (pieces.drop (start + length))

end Ipv6

end SampleLoad
