/-!
# A stream of random words

The state of the stream is four 64-bit words.  It is filled from a seed by the
SplitMix64 sequence and advanced by the xoshiro256** step.  Numbers below a
bound are made from words by multiplication: the high part of word times bound
is the number, and words whose low part lies beyond the last full zone are
rejected, so that every number is as likely as any other.  `below_lt` says that
the number stays below its bound whatever the words are.
-/

namespace LogPiles.Chance

/-- A rotation to the left. -/
def rotateLeft (word count : UInt64) : UInt64 := (word <<< count) ||| (word >>> (64 - count))

/-- The state of a stream of words. -/
structure Words where
  first : UInt64
  second : UInt64
  third : UInt64
  fourth : UInt64
  deriving DecidableEq

/-- How much of a word is used. -/
inductive Width where
  /-- The upper 32 bits. -/
  | half
  /-- All 64 bits. -/
  | full
  deriving DecidableEq

/-- Number of bits used. -/
def Width.bits : Width → Nat
  | .half => 32
  | .full => 64

/-- How many numbers there are of so many bits. -/
def Width.size : Width → Nat
  | .half => UInt32.size
  | .full => UInt64.size

namespace Words

/-- The distance of two states of the seeding sequence. -/
def seedStride : UInt64 := 0x9e3779b97f4a7c15

/-- The output of the seeding sequence for one of its states. -/
def mixSeed (state : UInt64) : UInt64 :=
  let state := (state ^^^ (state >>> 30)) * 0xbf58476d1ce4e5b9
  let state := (state ^^^ (state >>> 27)) * 0x94d049bb133111eb
  state ^^^ (state >>> 31)

/-- The stream of a seed. -/
def ofSeed (seed : UInt64) : Words where
  first := mixSeed (seed + seedStride)
  second := mixSeed (seed + 2 * seedStride)
  third := mixSeed (seed + 3 * seedStride)
  fourth := mixSeed (seed + 4 * seedStride)

/-- The next word. -/
def next (words : Words) : UInt64 × Words :=
  let ⟨first, second, third, fourth⟩ := words
  let thirdMixed := third ^^^ first
  let fourthMixed := fourth ^^^ second
  (rotateLeft (second * 5) 7 * 9,
    { first := first ^^^ fourthMixed
      second := second ^^^ thirdMixed
      third := thirdMixed ^^^ (second <<< 17)
      fourth := rotateLeft fourthMixed 45 })

/-- The used part of the next word, as a number. -/
def draw (width : Width) (words : Words) : Nat × Words :=
  let (word, words) := words.next
  match width with
  | .half => ((word >>> 32).toNat, words)
  | .full => (word.toNat, words)

/-- The largest low part that is accepted for this bound. -/
def zone (width : Width) (bound : Nat) : Nat :=
  (bound <<< (width.bits - 1 - bound.log2)) - 1

/-- A number below a bound, from the first word that is accepted.  After so many
rejections the next word is taken as it is. -/
def belowWithin (width : Width) (bound : Nat) : Nat → Words → Nat × Words
  | 0, words =>
    let (word, words) := words.draw width
    (word * bound / width.size, words)
  | rejections + 1, words =>
    let (word, words) := words.draw width
    let product := word * bound
    if product % width.size ≤ zone width bound then
      (product / width.size, words)
    else
      belowWithin width bound rejections words

/-- Number of states of the stream.  After so many words it repeats itself, so a
rejection that has lasted until then would last forever. -/
def period : Nat := Nat.pow 2 256

/-- A number below a bound. -/
def below (width : Width) (bound : Nat) (words : Words) : Nat × Words :=
  belowWithin width bound period words

theorem draw_lt (width : Width) (words : Words) : (words.draw width).1 < width.size := by
  cases width with
  | half =>
      simp only [draw, Width.size, UInt64.toNat_shiftRight, Nat.shiftRight_eq_div_pow]
      exact Nat.div_lt_of_lt_mul words.next.1.toNat_lt
  | full => exact words.next.1.toNat_lt

theorem mul_div_lt {word bound size : Nat} (wordBound : word < size)
    (positive : 0 < bound) : word * bound / size < bound :=
  Nat.div_lt_of_lt_mul (Nat.mul_lt_mul_of_pos_right wordBound positive)

theorem belowWithin_lt (width : Width) {bound : Nat} (positive : 0 < bound) (rejections : Nat)
    (words : Words) : (words.belowWithin width bound rejections).1 < bound := by
  induction rejections generalizing words with
  | zero => exact mul_div_lt (draw_lt width words) positive
  | succ rejections inductionHypothesis =>
      simp only [belowWithin]
      split
      · exact mul_div_lt (draw_lt width words) positive
      · exact inductionHypothesis _

/-- The number is below its bound. -/
theorem below_lt (width : Width) {bound : Nat} (positive : 0 < bound) (words : Words) :
    (words.below width bound).1 < bound :=
  belowWithin_lt width positive period words

end Words

end LogPiles.Chance
