import LogPiles.History
import LogPiles.Solve

/-!
# Observers

The observers that the library comes with.  `record` keeps the moves, `collect`
keeps whatever a function makes of a move and the lair after it, and `tally`
counts where each log went.
-/

namespace LogPiles.Observer

variable {σ β : Type}

/-- Sees nothing. -/
def silent : Observer Unit := fun _ _ seen => .ok seen

/-- Keeps every move. -/
def record : Observer History := fun move _ history => history.push move

/-- Keeps every value that the function has for a move and the lair after it. -/
def collect (choose : Move → Lair → Option β) : Observer (Array β) :=
  fun move lair kept =>
    match choose move lair with
    | none => .ok kept
    | some value => .ok (kept.push value)

/-- Adds text for every move. -/
def write (line : Move → Lair → String) : Observer String :=
  fun move lair text => .ok (text ++ line move lair)

/-- Counts, for each log, how often it was put on each site.  Entry `i` belongs
to log `i + 1`. -/
def tally : Observer (Array (PerSite Nat)) :=
  fun move _ counts => .ok (counts.modify (move.log - 1) (·.modify move.target (· + 1)))

/-- The tally of a lair of this size before any move. -/
def emptyTally (size : Nat) : Array (PerSite Nat) := Array.replicate size (PerSite.replicate 0)

/-- An observer that accepts every move. -/
def Total (watch : Observer σ) : Prop :=
  ∀ move lair seen, ∃ next, watch move lair seen = .ok next

theorem total_silent : Total silent := fun _ _ seen => ⟨seen, rfl⟩

end LogPiles.Observer
