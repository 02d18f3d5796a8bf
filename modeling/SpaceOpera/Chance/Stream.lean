import SpaceOpera.Chance.Cipher

/-!
# Streams of random words

A stream hands out the words of a sequence of blocks one after the other.  The sequence may be any
function: what holds for every stream holds for every outcome of every draw.  A draw below a bound
scales a word to the bound and rejects the few words that would favour some results; it never leaves
its range (`below_lt`, `between_le`).
-/

namespace SpaceOpera.Chance

/-- The words not handed out yet: those left of the current block, then all blocks from `next` on. -/
structure Stream where
  source : Nat → Block
  next : Nat
  pending : List UInt32

/-- The stream of a seed. -/
def Stream.ofSeed (seed : UInt64) : Stream :=
  ⟨(Key.ofSeed seed).block, 0, []⟩

/-- The next word and what remains. -/
def Stream.word32 (s : Stream) : UInt32 × Stream :=
  match s.pending with
  | w :: rest => (w, { s with pending := rest })
  | [] =>
    let block := s.source s.next
    (block[0], { s with next := s.next + 1, pending := block.toList.tail })

/-- How many bits a draw takes. -/
inductive Width where
  /-- One word. -/
  | narrow
  /-- Two words, the lower half first. -/
  | wide
deriving DecidableEq, Repr

/-- The number of bits. -/
def Width.bits : Width → Nat
  | .narrow => 32
  | .wide => 64

/-- How many numbers there are of the width. -/
def Width.size : Width → Nat
  | .narrow => UInt32.size
  | .wide => UInt64.size

/-- A number of the given width. -/
def Stream.word (width : Width) (s : Stream) : Nat × Stream :=
  match width with
  | .narrow =>
    let (w, s) := s.word32
    (w.toNat, s)
  | .wide =>
    let (low, s) := s.word32
    let (high, s) := s.word32
    (low.toNat + UInt32.size * high.toNat, s)

theorem Stream.word_lt (width : Width) (s : Stream) : (s.word width).1 < width.size := by
  cases width
  · exact UInt32.toNat_lt _
  · have low := UInt32.toNat_lt s.word32.1
    have high := UInt32.toNat_lt s.word32.2.word32.1
    simp only [Stream.word, Width.size, UInt32.size, UInt64.size]
    omega

/-- The largest remainder at which a scaled word is accepted: one less than the largest product of
`bound` with a power of two that fits the width. -/
def Width.acceptance (width : Width) (bound : Nat) : Nat :=
  bound <<< (width.bits - 1 - bound.log2) - 1

/-- A number below `bound`: words are scaled by `bound` until one is accepted.  After `tries`
rejections, each of which has at most an even chance, the last word is taken as it is. -/
def Stream.belowWithin (width : Width) (bound : Nat) : Nat → Stream → Nat × Stream
  | 0, s =>
    let (w, s) := s.word width
    (w * bound / width.size, s)
  | tries + 1, s =>
    let (w, s) := s.word width
    let scaled := w * bound
    if scaled % width.size ≤ width.acceptance bound then (scaled / width.size, s)
    else s.belowWithin width bound tries

/-- The number of rejections that a draw bears. -/
def rejectionLimit : Nat := 1000

/-- A number below `bound`. -/
def Stream.below (width : Width) (bound : Nat) (s : Stream) : Nat × Stream :=
  s.belowWithin width bound rejectionLimit

/-- A number from `low` to `high`, both included; the whole range of the width is drawn without
scaling. -/
def Stream.between (width : Width) (low high : Nat) (s : Stream) : Nat × Stream :=
  let span := high - low + 1
  if span = width.size then
    let (w, s) := s.word width
    (low + w, s)
  else
    let (w, s) := s.below width span
    (low + w, s)

theorem scaled_lt {w bound size : Nat} (hw : w < size) (hb : 0 < bound) :
    w * bound / size < bound := by
  have : 0 < size := by omega
  rw [Nat.div_lt_iff_lt_mul this, Nat.mul_comm bound]
  exact Nat.mul_lt_mul_of_pos_right hw hb

theorem Stream.belowWithin_lt (width : Width) {bound : Nat} (hb : 0 < bound) (tries : Nat)
    (s : Stream) : (s.belowWithin width bound tries).1 < bound := by
  induction tries generalizing s with
  | zero => exact scaled_lt (s.word_lt width) hb
  | succ tries ih =>
    simp only [belowWithin]
    split
    · exact scaled_lt (s.word_lt width) hb
    · exact ih _

/-- A draw below a bound is below it. -/
theorem Stream.below_lt (width : Width) {bound : Nat} (hb : 0 < bound) (s : Stream) :
    (s.below width bound).1 < bound :=
  s.belowWithin_lt width hb _

theorem Stream.le_between (width : Width) (low high : Nat) (s : Stream) :
    low ≤ (s.between width low high).1 := by
  simp only [between]
  split <;> simp

/-- A draw from a range lies in it. -/
theorem Stream.between_le (width : Width) {low high : Nat} (h : low ≤ high) (s : Stream) :
    (s.between width low high).1 ≤ high := by
  simp only [between]
  split
  · rename_i whole
    have := s.word_lt width
    simp only
    omega
  · have : (s.below width (high - low + 1)).1 < high - low + 1 := s.below_lt width (by omega)
    simp only
    omega

end SpaceOpera.Chance
