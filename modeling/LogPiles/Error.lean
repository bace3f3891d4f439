import LogPiles.Site

/-!
# Errors and breaches

Two things can go wrong, and they are kept apart.

* A `LairError` is an answer.  The caller receives it together with the state
  that was reached, and may go on from there.
* A `Breach` says that a caller broke a stated condition.  It ends the whole
  computation, so no state comes with it.

The wording of both is fixed here and nowhere else.
-/

namespace LogPiles

/-- What a lair or a pile refuses to do. -/
inductive LairError where
  /-- A log was to be taken from a pile without logs. -/
  | emptyPile (site : Site)
  /-- No lair has this size. -/
  | invalidSize (size : Int)
  /-- A lair is solved once only. -/
  | alreadySolved
  deriving DecidableEq

/-- The wording of an error. -/
def LairError.message : LairError → String
  | .emptyPile site => s!"cannot take a log from the empty {site.label} pile"
  | .invalidSize size => s!"invalid lair size {size}: expected 0..=64"
  | .alreadySolved => "lair has already been solved"

/-- A stated condition that a caller broke. -/
inductive Breach where
  /-- The least number of moves was asked for a size beyond `64`. -/
  | sizeTooLarge (size : Nat)
  /-- Moves are numbered from one. -/
  | stepNotPositive
  /-- Moves are recorded in order, without gaps. -/
  | stepOutOfOrder (step expected : Nat)
  /-- A move has no number left. -/
  | stepOverflow
  /-- There is no state before move zero. -/
  | stepUnderflow
  /-- A log was put on a log that is not larger. -/
  | smallerBelow (log : Nat)
  /-- Two numbers that a finished run must make equal differ. -/
  | countsDiffer (found expected : Nat)
  /-- Snapshots are added in the order of their steps. -/
  | snapshotOutOfOrder
  /-- A finding names its property. -/
  | unnamedProperty
  /-- A finding names the file that states its property. -/
  | unnamedSpec
  /-- A finding names the line that states its property; lines count from one. -/
  | lineNotPositive
  /-- A failing finding says what is wrong. -/
  | emptyViolation
  /-- A check carries a seed other than zero. -/
  | zeroCheckSeed
  /-- A generator is seeded with a number other than zero. -/
  | zeroSeed
  /-- A generator serves a limited number of calls. -/
  | tooManyCalls
  /-- A probability lies between zero and one. -/
  | notAProbability
  /-- A number is drawn from a range that has one. -/
  | emptyRange
  /-- A reference value fits into 128 bits. -/
  | shiftOverflow
  /-- Positions are enumerated for small sizes only. -/
  | modelTooLarge (size : Nat)
  deriving DecidableEq

/-- The wording of a breach. -/
def Breach.message : Breach → String
  | .sizeTooLarge size => s!"Size {size} exceeds 64"
  | .stepNotPositive => "Step must be positive"
  | .stepOutOfOrder step expected =>
    "assertion `left == right` failed: Moves must be recorded in step order" ++
      s!"\n  left: {step}\n right: {expected}"
  | .stepOverflow => "attempt to add with overflow"
  | .stepUnderflow => "attempt to subtract with overflow"
  | .smallerBelow log => s!"Log {log} placed on a smaller log"
  | .countsDiffer found expected =>
    s!"assertion `left == right` failed\n  left: {found}\n right: {expected}"
  | .snapshotOutOfOrder => "Snapshots must be added in step order"
  | .unnamedProperty => "Property name must not be empty"
  | .unnamedSpec => "TLA+ spec must not be empty"
  | .lineNotPositive => "TLA+ line must be positive"
  | .emptyViolation => "Violation description must not be empty"
  | .zeroCheckSeed => "DST seed should not be zero"
  | .zeroSeed => "Seed should not be zero"
  | .tooManyCalls => "Very high number of RNG calls - possible infinite loop"
  | .notAProbability => "Probability must be in [0.0, 1.0]"
  | .emptyRange => "cannot sample empty range"
  | .shiftOverflow => "attempt to shift left with overflow"
  | .modelTooLarge size => s!"Model checking {size} logs is slow"

/-- Why a computation that cannot go on from where it stands has ended. -/
inductive Halt where
  | error (error : LairError)
  | breach (breach : Breach)
  deriving DecidableEq

/-- A breach ends whatever it occurs in. -/
def Halt.ofBreach {α : Type} : Except Breach α → Except Halt α
  | .ok value => .ok value
  | .error cause => .error (.breach cause)

/-- An error that nobody answers ends the computation it occurs in. -/
def Halt.ofError {α : Type} : Except LairError α → Except Halt α
  | .ok value => .ok value
  | .error cause => .error (.error cause)

@[simp]
theorem Halt.ofBreach_eq_ok {α : Type} {outcome : Except Breach α} {value : α} :
    Halt.ofBreach outcome = .ok value ↔ outcome = .ok value := by
  cases outcome <;> simp [Halt.ofBreach]

@[simp]
theorem Halt.ofError_eq_ok {α : Type} {outcome : Except LairError α} {value : α} :
    Halt.ofError outcome = .ok value ↔ outcome = .ok value := by
  cases outcome <;> simp [Halt.ofError]

/-- A computation in two parts succeeds when both of them do. -/
theorem bind_eq_ok_iff {ε α β : Type} {first : Except ε α} {second : α → Except ε β} {value : β} :
    first >>= second = .ok value ↔ ∃ middle, first = .ok middle ∧ second middle = .ok value := by
  cases first <;> simp [bind, Except.bind]

/-- What follows a computation matters only for the values in which that can end. -/
theorem bind_congr_ok {ε α β : Type} {first : Except ε α} {second second' : α → Except ε β}
    (same : ∀ value, first = .ok value → second value = second' value) :
    first >>= second = first >>= second' := by
  cases first with
  | error cause => rfl
  | ok value => exact same value rfl

end LogPiles
