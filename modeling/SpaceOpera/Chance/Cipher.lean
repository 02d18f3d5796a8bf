/-!
# Blocks of random words

The words that everything random is drawn from: the ChaCha block function with twelve rounds, keyed by
a seed.  A seed is stretched to a key of eight words by a congruential generator whose states are
permuted on output.
-/

namespace SpaceOpera.Chance

/-- Sixteen words, the state and the output of the block function. -/
abbrev Block := Vector UInt32 16

/-- Rotation to the left, for distances strictly between zero and thirty-two. -/
def rotateLeft (w distance : UInt32) : UInt32 :=
  (w <<< distance) ||| (w >>> (32 - distance))

/-- The quarter round on four places of the state. -/
def Block.quarterRound (s : Block) (a b c d : Fin 16) : Block :=
  let s := s.set a (s[a] + s[b])
  let s := s.set d (rotateLeft (s[d] ^^^ s[a]) 16)
  let s := s.set c (s[c] + s[d])
  let s := s.set b (rotateLeft (s[b] ^^^ s[c]) 12)
  let s := s.set a (s[a] + s[b])
  let s := s.set d (rotateLeft (s[d] ^^^ s[a]) 8)
  let s := s.set c (s[c] + s[d])
  s.set b (rotateLeft (s[b] ^^^ s[c]) 7)

/-- A round over the columns of the state and one over its diagonals. -/
def Block.doubleRound (s : Block) : Block :=
  let s := s.quarterRound 0 4 8 12
  let s := s.quarterRound 1 5 9 13
  let s := s.quarterRound 2 6 10 14
  let s := s.quarterRound 3 7 11 15
  let s := s.quarterRound 0 5 10 15
  let s := s.quarterRound 1 6 11 12
  let s := s.quarterRound 2 7 8 13
  s.quarterRound 3 4 9 14

/-- Twelve rounds. -/
def Block.scramble (s : Block) : Block :=
  s.doubleRound.doubleRound.doubleRound.doubleRound.doubleRound.doubleRound

/-- The eight words of a key. -/
abbrev Key := Vector UInt32 8

/-- The initial state for block number `n`: constants, key, a counter of sixty-four bits, and two
words of zero. -/
def Key.start (key : Key) (n : Nat) : Block :=
  #v[0x61707865, 0x3320646e, 0x79622d32, 0x6b206574,
    key[0], key[1], key[2], key[3], key[4], key[5], key[6], key[7],
    UInt32.ofNat n, UInt32.ofNat (n / UInt32.size), 0, 0]

/-- Block number `n` under the key. -/
def Key.block (key : Key) (n : Nat) : Block :=
  (key.start n).zipWith (· + ·) (key.start n).scramble

/-- One step of the generator that stretches seeds. -/
def stretch (state : UInt64) : UInt64 :=
  state * 6364136223846793005 + 11634580027462260723

/-- The word that a state of the stretching generator gives: thirty-two bits of it, rotated to the
right by its five highest bits. -/
def permuted (state : UInt64) : UInt32 :=
  let word := (((state >>> 18) ^^^ state) >>> 27).toUInt32
  let distance := (state >>> 59).toUInt32
  (word >>> distance) ||| (word <<< ((32 - distance) % 32))

/-- The key of a seed: the words of eight successive states. -/
def Key.ofSeed (seed : UInt64) : Key :=
  let s1 := stretch seed
  let s2 := stretch s1
  let s3 := stretch s2
  let s4 := stretch s3
  let s5 := stretch s4
  let s6 := stretch s5
  let s7 := stretch s6
  let s8 := stretch s7
  #v[permuted s1, permuted s2, permuted s3, permuted s4,
    permuted s5, permuted s6, permuted s7, permuted s8]

end SpaceOpera.Chance
