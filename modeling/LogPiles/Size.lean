import LogPiles.Error

/-!
# Sizes and the least number of moves

A lair of size `n` holds the logs `1, …, n`.  Moving all of them takes at least
`2 ^ n - 1` moves.  Move numbers are 64-bit words, and `64` is the largest size
whose least number of moves is such a word: see `leastMoves_lt`.
-/

namespace LogPiles

/-- A log is its length: log `1` is the smallest. -/
abbrev Log := Nat

/-- The largest size of a lair. -/
def sizeLimit : Nat := 64

/-- Move numbers are words, so they stay below this bound. -/
def moveLimit : Nat := UInt64.size

/-- The logs of a lair of this size, smallest first. -/
def logsUpTo (size : Nat) : List Log := List.range' 1 size

/-- One less than a power of two: the least number of moves for this many logs. -/
def leastMoves (size : Nat) : Nat := Nat.pow 2 size - 1

/-- The least number of moves that brings `size` logs to another site. -/
def optimalMoves (size : Nat) : Except Breach Nat :=
  if size ≤ sizeLimit then .ok (leastMoves size) else .error (.sizeTooLarge size)

@[simp]
theorem length_logsUpTo (size : Nat) : (logsUpTo size).length = size := by
  simp [logsUpTo]

@[simp]
theorem mem_logsUpTo {size log : Nat} : log ∈ logsUpTo size ↔ 1 ≤ log ∧ log ≤ size := by
  simp only [logsUpTo, List.mem_range'_1]
  omega

/-- Without one log, twice, and one move for the largest. -/
theorem leastMoves_succ (size : Nat) :
    leastMoves (size + 1) = leastMoves size + 1 + leastMoves size := by
  have positive : 0 < Nat.pow 2 size := Nat.two_pow_pos size
  have double : Nat.pow 2 (size + 1) = Nat.pow 2 size * 2 := rfl
  unfold leastMoves
  omega

theorem leastMoves_mono {small large : Nat} (le : small ≤ large) :
    leastMoves small ≤ leastMoves large :=
  Nat.sub_le_sub_right (Nat.pow_le_pow_right (by decide) le) 1

theorem optimalMoves_of_le {size : Nat} (within : size ≤ sizeLimit) :
    optimalMoves size = .ok (leastMoves size) := by
  simp [optimalMoves, within]

theorem optimalMoves_of_lt {size : Nat} (beyond : sizeLimit < size) :
    optimalMoves size = .error (.sizeTooLarge size) := by
  simp [optimalMoves, Nat.not_le.2 beyond]

/-- Every lair is solved within the range of move numbers. -/
theorem leastMoves_lt {size : Nat} (within : size ≤ sizeLimit) :
    leastMoves size < moveLimit :=
  Nat.lt_of_le_of_lt (leastMoves_mono within) (by decide)

end LogPiles
