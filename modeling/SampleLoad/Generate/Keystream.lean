/-!
The seeded stream of random words: the keystream of the ChaCha cipher with twelve rounds, a counter of 64
bits from zero and a zero stream number. The key is filled from a 64-bit seed by a linear congruential
generator with permuted output.
-/

namespace SampleLoad

/-- The sixteen words on which the cipher works. -/
abbrev CipherState := Vector UInt32 16

namespace CipherState

def rotateLeft (x : UInt32) (n : UInt32) : UInt32 := (x <<< n) ||| (x >>> (32 - n))

/-- Mixes four words of the state. -/
def quarterRound (s : CipherState) (a b c d : Fin 16) : CipherState :=
  let s := s.set a (s[a] + s[b])
  let s := s.set d (rotateLeft (s[d] ^^^ s[a]) 16)
  let s := s.set c (s[c] + s[d])
  let s := s.set b (rotateLeft (s[b] ^^^ s[c]) 12)
  let s := s.set a (s[a] + s[b])
  let s := s.set d (rotateLeft (s[d] ^^^ s[a]) 8)
  let s := s.set c (s[c] + s[d])
  s.set b (rotateLeft (s[b] ^^^ s[c]) 7)

/-- A round on the columns and a round on the diagonals. -/
def doubleRound (s : CipherState) : CipherState :=
  let s := s.quarterRound 0 4 8 12
  let s := s.quarterRound 1 5 9 13
  let s := s.quarterRound 2 6 10 14
  let s := s.quarterRound 3 7 11 15
  let s := s.quarterRound 0 5 10 15
  let s := s.quarterRound 1 6 11 12
  let s := s.quarterRound 2 7 8 13
  s.quarterRound 3 4 9 14

def doubleRounds : Nat → CipherState → CipherState
  | 0, s => s
  | n + 1, s => doubleRounds n s.doubleRound

end CipherState

/-- A keystream: its key, the number of the next block, and the words of the present block not yet
taken. -/
structure Keystream where
  key : Vector UInt32 8
  counter : UInt64
  pending : List UInt32

namespace Keystream

/-- The state before mixing: four constants, the key, the block number and the stream number. -/
def initialState (key : Vector UInt32 8) (counter : UInt64) : CipherState :=
  #v[0x61707865, 0x3320646e, 0x79622d32, 0x6b206574,
    key[0], key[1], key[2], key[3], key[4], key[5], key[6], key[7],
    counter.toUInt32, (counter >>> 32).toUInt32, 0, 0]

/-- The sixteen words of a block. -/
def block (key : Vector UInt32 8) (counter : UInt64) : CipherState :=
  let s := initialState key counter
  Vector.zipWith (· + ·) (s.doubleRounds 6) s

/-- The next word. -/
def next (k : Keystream) : UInt32 × Keystream :=
  match k.pending with
  | word :: rest => (word, { k with pending := rest })
  | [] =>
    let words := block k.key k.counter
    (words[0], { k with counter := k.counter + 1, pending := words.toList.tail })

/-- One step of the generator that fills keys. -/
def keyStep (state : UInt64) : UInt64 := state * 6364136223846793005 + 11634580027462260723

/-- The output for a state of the generator that fills keys. -/
def keyWord (state : UInt64) : UInt32 :=
  let mixed := (((state >>> 18) ^^^ state) >>> 27).toUInt32
  let turn := (state >>> 59).toUInt32
  (mixed >>> turn) ||| (mixed <<< ((32 - turn) % 32))

/-- The first so many outputs after a state. -/
def keyWords : Nat → UInt64 → List UInt32
  | 0, _ => []
  | n + 1, state => keyWord (keyStep state) :: keyWords n (keyStep state)

/-- The key for a seed. -/
def keyOfSeed (seed : UInt64) : Vector UInt32 8 :=
  let words := keyWords 8 seed
  Vector.ofFn fun i => words.getD i.val 0

def ofSeed (seed : UInt64) : Keystream := ⟨keyOfSeed seed, 0, []⟩

end Keystream

end SampleLoad
