import SampleLoad.Generate.Keystream
import SampleLoad.Number.Binary
import SampleLoad.Number.Integer

/-!
Random sources and what is drawn from them. A source yields 32-bit words, either a keystream's or those of
a list and zeros after its end, and counts the words taken. A draw below a bound takes one word, or two
when the first leaves the result in doubt; a letter takes words until one of them names a letter.
-/

namespace SampleLoad

inductive WordStream where
  | keyed (k : Keystream)
  | listed (words : List UInt32)

namespace WordStream

def next : WordStream → UInt32 × WordStream
  | keyed k => let (word, k) := k.next; (word, keyed k)
  | listed [] => (0, listed [])
  | listed (word :: rest) => (word, listed rest)

/-- So many words hold everything that the stream has to offer: a keystream starts over after `2 ^ 64`
blocks, a list ends in zeros. -/
def span : WordStream → Nat
  | keyed _ => 16 * wordLimit + 16
  | listed words => words.length + 1

end WordStream

/-- A stream of random words and the number of words taken from it. -/
structure RandomSource where
  stream : WordStream
  taken : Nat

namespace RandomSource

def ofSeed (seed : UInt64) : RandomSource := ⟨.keyed (.ofSeed seed), 0⟩

def ofWords (words : List UInt32) : RandomSource := ⟨.listed words, 0⟩

/-- The number of words that there are. -/
abbrev wordSize : Nat := 4294967296

/-- The next word. -/
def word (s : RandomSource) : UInt32 × RandomSource :=
  let (word, stream) := s.stream.next
  (word, ⟨stream, s.taken + 1⟩)

/-- Two words as a number below `2 ^ 64`, the low half first. -/
def word64 (s : RandomSource) : Nat × RandomSource :=
  let (low, s) := s.word
  let (high, s) := s.word
  (high.toNat * wordSize + low.toNat, s)

/-- A number below `bound`, which lies between one and `2 ^ 32`. -/
def below (bound : Nat) (s : RandomSource) : Nat × RandomSource :=
  let (first, s) := s.word
  let product := first.toNat * bound
  let result := product / wordSize
  let low := product % wordSize
  if wordSize - bound < low then
    let (second, s) := s.word
    if wordSize ≤ low + second.toNat * bound / wordSize then (result + 1, s) else (result, s)
  else (result, s)

/-- The letters and digits that texts are made of. -/
def alphabet : Vector Char 62 :=
  ⟨"ABCDEFGHIJKLMNOPQRSTUVWXYZabcdefghijklmnopqrstuvwxyz0123456789".toList.toArray, by decide⟩

/-- The letter that the first six bits of a word name. -/
def letterOfWord? (word : UInt32) : Option Char := alphabet[word.toNat >>> 26]?

/-- A letter named by one of the next `patience` words, the first that names one. -/
def letterWithin : (patience : Nat) → RandomSource → Char × RandomSource
  | 0, s => (alphabet[0], s)
  | patience + 1, s =>
    let (word, s) := s.word
    match letterOfWord? word with
    | some letter => (letter, s)
    | none => letterWithin patience s

/-- The next letter. Words that name none are passed over; once the whole stream has been seen, no other
word would come. -/
def letter (s : RandomSource) : Char × RandomSource := letterWithin s.stream.span s

/-- So many letters, behind those drawn so far, which are in reverse. -/
def lettersBehind : (count : Nat) → List Char → RandomSource → List Char × RandomSource
  | 0, drawn, s => (drawn.reverse, s)
  | count + 1, drawn, s =>
    let (c, s) := s.letter
    lettersBehind count (c :: drawn) s

def letters (count : Nat) (s : RandomSource) : List Char × RandomSource := lettersBehind count [] s

/-- True for half of the 64-bit numbers. -/
def coin (s : RandomSource) : Bool × RandomSource :=
  let (n, s) := s.word64
  (n < signedLimit, s)

/-- A multiple of `2 ^ (-53)` from zero up to but not including one. -/
def unitDouble (s : RandomSource) : Double × RandomSource :=
  let (n, s) := s.word64
  (.ofUnitFraction (n >>> 11), s)

/-- A multiple of `2 ^ (-24)` from zero up to but not including one. -/
def unitFloat (s : RandomSource) : Single × RandomSource :=
  let (n, s) := s.word
  (.ofUnitFraction (n.toNat >>> 8), s)

end RandomSource

end SampleLoad
