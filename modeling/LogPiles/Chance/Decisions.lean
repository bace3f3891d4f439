import LogPiles.Error

/-!
# Probabilities and decisions

A walk asks two kinds of questions of chance: whether something that has a
probability happens, and which member of a list to take.  `Decisions` is what
answers them.  A generator of random numbers does, and so does any other source,
so a law that is proved for every source holds whatever chance brings.  The one
thing to rely on is that a choice comes from its list: `FairDecisions`.  Where a
source is made from a seed, `Seeded` makes it.
-/

namespace LogPiles.Chance

/-- A number between zero and one. -/
structure Probability where
  value : Float
  inRange : (0.0 ≤ value && value ≤ 1.0) = true

namespace Probability

/-- Accepts the numbers between zero and one. -/
def ofFloat (value : Float) : Except Breach Probability :=
  if inRange : (0.0 ≤ value && value ≤ 1.0) = true then
    .ok ⟨value, inRange⟩
  else
    .error .notAProbability

/-- What never happens. -/
def never : Probability := ⟨0.0, by decide⟩

/-- Whether the probability is above zero. -/
def isPositive (probability : Probability) : Bool := 0.0 < probability.value

/-- Whether what has this probability always happens. -/
def isCertain (probability : Probability) : Bool := probability.value == 1.0

/-- The number of 64-bit words that stand for a yes, unless it is certain. -/
def words (probability : Probability) : UInt64 :=
  (probability.value * 18446744073709551616.0).toUInt64

theorem isPositive_never : never.isPositive = false := by decide

end Probability

/-- A source of decisions with states of type `σ`. -/
class Decisions (σ : Type) where
  /-- Decides whether something with this probability happens. -/
  flip : Probability → σ → Except Breach (Bool × σ)
  /-- Takes a member of a list. -/
  pick {α : Type} : List α → σ → Except Breach (Option α × σ)

/-- Sources that are made from seeds. -/
class Seeded (σ : Type) where
  /-- The source of a seed; a seed may be refused. -/
  ofSeed : UInt64 → Except Breach σ

/-- A source whose choices come from their lists. -/
class FairDecisions (σ : Type) [Decisions σ] : Prop where
  /-- There is no choice exactly where there is nothing to choose from. -/
  pick_none {α : Type} {options : List α} {source next : σ} {choice : Option α} :
    Decisions.pick options source = .ok (choice, next) → (choice = none ↔ options = [])
  /-- A choice is a member of its list. -/
  pick_mem {α : Type} {options : List α} {source next : σ} {choice : α} :
    Decisions.pick options source = .ok (some choice, next) → choice ∈ options

end LogPiles.Chance
