import LogPiles.Account
import LogPiles.Chance.Decisions
import LogPiles.Columns

/-!
# Random walks

A walk starts with all logs in the forest and moves one log at a time, between
sites that chance picks.  With a fault probability of zero it picks among the
legal hops only.  Otherwise each step may be a fault: chance first decides
whether it shall be one, and if a log can be put on a smaller one, such a hop is
picked.  A walk keeps its history and counts its faults, so it gives an account
of itself.

A walk keeps its logs in columns, with tests of its own for what it may do.
`Walk.piles` is the position as the game has it, and the lemmas at the end read
the tests of the walk off this position.

The source of the decisions is a parameter, and nothing here depends on how it
comes to them.
-/

namespace LogPiles

open Chance

/-- A lair that is moved at random. -/
structure Walk where
  size : Nat
  columns : Columns
  history : History
  faultProbability : Probability
  /-- Number of faults so far. -/
  faults : Nat

namespace Walk

/-- A walk that has not moved yet, without faults. -/
def start (size : Nat) : Walk :=
  ⟨size, .start size, .empty, .never, 0⟩

/-- Sets the probability of a fault for the steps to come. -/
def withFaultProbability (probability : Float) (walk : Walk) : Except Breach Walk := do
  return { walk with faultProbability := ← Probability.ofFloat probability }

/-- The position, in which the logs of a site are listed top first. -/
def piles (walk : Walk) : Piles := walk.columns.piles

/-- What the walk says about itself. -/
def account (walk : Walk) : Account := ⟨walk.size, walk.piles, walk.history⟩

/-- Whether all logs are in the hideout. -/
def solved (walk : Walk) : Bool := walk.columns.hideout.size == walk.size

/-- The hops of a top log to another site, either those onto a larger log or the
ground or the others, by source and then by target. -/
def candidates (legal : Bool) (walk : Walk) : List Hop :=
  Site.all.flatMap fun source =>
    match walk.columns.last? source with
    | none => []
    | some log =>
      (Site.all.filter fun target =>
        target ≠ source && (walk.columns.last? target).all (log < ·) == legal).map (⟨source, ·⟩)

/-- Makes a hop and records it.  Nothing happens where the source has no log. -/
def make (hop : Hop) (walk : Walk) : Option Move × Walk :=
  match walk.columns.last? hop.source with
  | none => (none, walk)
  | some log =>
    let (move, history) := walk.history.record log hop
    (some move, { walk with columns := walk.columns.shift hop log, history := history })

/-- Makes the hop that was picked, if one was. -/
def makeAny (hop? : Option Hop) (walk : Walk) : Option Move × Walk :=
  match hop? with
  | none => (none, walk)
  | some hop => walk.make hop

variable {σ : Type} [Decisions σ]

/-- Makes a legal hop. -/
def legalStep (walk : Walk) (source : σ) : Except Breach (Option Move × Walk × σ) := do
  let (hop?, source) ← Decisions.pick (walk.candidates true) source
  let (move?, walk) := walk.makeAny hop?
  return (move?, walk, source)

/-- Puts a log on a smaller one, or makes a legal hop where that is not possible. -/
def faultStep (walk : Walk) (source : σ) : Except Breach (Option Move × Walk × σ) := do
  let (hop?, source) ← Decisions.pick (walk.candidates false) source
  match hop? with
  | none => walk.legalStep source
  | some hop =>
    let (move?, walk) := { walk with faults := walk.faults + 1 }.make hop
    return (move?, walk, source)

/-- Makes one move; there is none in a lair without logs. -/
def step (walk : Walk) (source : σ) : Except Breach (Option Move × Walk × σ) :=
  if walk.faultProbability.isPositive then do
    let (fault, source) ← Decisions.flip walk.faultProbability source
    if fault then walk.faultStep source else walk.legalStep source
  else
    walk.legalStep source

/-- Makes moves until so many are made or there is none, and adds their number to
those already taken. -/
def advanceFrom (taken : Nat) : Nat → Walk → σ → Except Breach (Nat × Walk × σ)
  | 0, walk, source => .ok (taken, walk, source)
  | steps + 1, walk, source =>
    match walk.step source with
    | .error breach => .error breach
    | .ok (none, walk, source) => .ok (taken, walk, source)
    | .ok (some _, walk, source) => advanceFrom (taken + 1) steps walk source

/-- Makes up to so many moves, and tells how many were made. -/
def advance (steps : Nat) (walk : Walk) (source : σ) : Except Breach (Nat × Walk × σ) :=
  advanceFrom 0 steps walk source

/-- A walk of so many legal moves. -/
def run (size steps : Nat) (source : σ) : Except Breach (Walk × σ) := do
  let (_, walk, source) ← (start size).advance steps source
  return (walk, source)

@[simp]
theorem piles_start (size : Nat) : (start size).piles = Piles.start size :=
  Columns.piles_start size

/-- The last log of a column is the top log of the site. -/
theorem top?_piles (walk : Walk) (site : Site) :
    walk.piles.top? site = walk.columns.last? site :=
  walk.columns.top?_piles site

/-- Whether a log is smaller than the last one of a column is what the game asks. -/
theorem fits_piles (walk : Walk) (log : Log) (site : Site) :
    walk.piles.fits log site = (walk.columns.last? site).all (log < ·) := by
  rw [Piles.fits, top?_piles]

end Walk

end LogPiles
