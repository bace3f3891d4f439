import LogPiles.Observer

/-!
# Growth of the number of moves

A growth run solves a fresh lair of every size from one up and reports the
number of moves of each.  A point of the curve sets that number beside the power
of two that it stays below by one.
-/

namespace LogPiles

/-- One point of the growth curve. -/
structure GrowthPoint where
  size : Nat
  moves : Nat
  /-- The value that the curve is compared with, a power of two. -/
  reference : Nat
  deriving DecidableEq

/-- A point of the curve.  The reference value is a number of 128 bits. -/
def GrowthPoint.of (size moves : Nat) : Except Breach GrowthPoint :=
  if size < 128 then .ok ⟨size, moves, Nat.pow 2 size⟩ else .error .shiftOverflow

/-- Takes in the size and the number of moves of each solved lair. -/
abbrev Reporter (ρ : Type) := Nat → Nat → ρ → Except Breach ρ

/-- Keeps the sizes and the numbers of moves. -/
def Reporter.pairs : Reporter (Array (Nat × Nat)) :=
  fun size moves kept => .ok (kept.push (size, moves))

/-- Keeps the points of the curve. -/
def Reporter.points : Reporter (Array GrowthPoint) :=
  fun size moves kept => do return kept.push (← GrowthPoint.of size moves)

/-- Which sizes a growth run covers, and how it solves them. -/
structure Growth where
  /-- The largest size; the smallest one is `1`. -/
  sizeMax : Nat := 16
  strategy : Strategy := .recursive

namespace Growth

variable {ρ : Type}

/-- The largest size that a growth run accepts: it makes about `2 ^ (sizeMax + 1)`
moves. -/
def limit : Nat := 24

/-- A small run. -/
def quick : Growth := { sizeMax := 8 }

/-- Rejects a run that would take too long. -/
def validate (growth : Growth) : Except LairError Unit :=
  if growth.sizeMax ≤ limit then .ok () else .error (.invalidSize growth.sizeMax)

/-- Solves a fresh lair. -/
def movesFor (strategy : Strategy) (size : Nat) : Except Halt Nat := do
  let lair ← Halt.ofError (Lair.ofNat size)
  let attempt ← Halt.ofBreach (lair.solve strategy Observer.silent ())
  Halt.ofError attempt.answer

/-- Solves the sizes one after the other and reports each. -/
def runSizes (strategy : Strategy) (report : Reporter ρ) :
    List Nat → ρ → Except Halt (List GrowthPoint × ρ)
  | [], kept => .ok ([], kept)
  | size :: sizes, kept => do
    let moves ← movesFor strategy size
    let kept ← Halt.ofBreach (report size moves kept)
    let point ← Halt.ofBreach (GrowthPoint.of size moves)
    let (points, kept) ← runSizes strategy report sizes kept
    return (point :: points, kept)

/-- Solves every size of the run, smallest first. -/
def run (growth : Growth) (report : Reporter ρ) (kept : ρ) :
    Except Halt (List GrowthPoint × ρ) := do
  Halt.ofError growth.validate
  runSizes growth.strategy report (List.range' 1 growth.sizeMax) kept

end Growth

end LogPiles
