import LogPiles.Piles

/-!
# Explorers of the game

An explorer visits the positions that legal hops lead to, and takes down the first
visit by which each property of the game is discovered.  `Explorer` is what can be
asked of one.  `BreadthFirst` is all that is assumed of it: it sets out from the
start alone, the visits that it comes to know of are made first in, first out, no
position is visited a second time, and it stops when nothing is left or every
property has a discovery.

How an explorer keeps what it knows is its own business, so what is proved of any
explorer that is breadth first holds of every implementation that meets these
assumptions.
-/

namespace LogPiles

/-- A position with the hops that led to it, the last hop first. -/
structure Visit where
  piles : Piles
  trail : List Hop

namespace Visit

/-- The hops from the start to the position. -/
def path (visit : Visit) : List Hop := visit.trail.reverse

/-- The positions one hop further on. -/
def successors (visit : Visit) : List Visit :=
  visit.piles.legalHops.filterMap fun hop =>
    (visit.piles.next? hop).map fun next => ⟨next, hop :: visit.trail⟩

/-- The visits to positions that were not met before, and of those to the same
position the first. -/
def newcomers (met : Piles → Bool) : List Visit → List Visit
  | [] => []
  | visit :: visits =>
    if met visit.piles then
      newcomers met visits
    else
      visit :: newcomers (fun piles => met piles || visit.piles == piles) visits

/-- The hops to a visit, if they are the first that lead to such a position. -/
def firstPath (known : Option (List Hop)) (visit : Visit) (found : Bool) : Option (List Hop) :=
  known.or (if found then some visit.path else none)

end Visit

/-- The positions that were met, and the visits that are still to be made. -/
structure Frontier where
  met : Piles → Bool
  pending : List Visit

namespace Frontier

/-- Puts a visit behind the others, unless its position was met before. -/
def meet (frontier : Frontier) (visit : Visit) : Frontier :=
  if frontier.met visit.piles then
    frontier
  else
    ⟨fun piles => frontier.met piles || visit.piles == piles, frontier.pending ++ [visit]⟩

/-- Meeting visits one by one puts the newcomers among them behind the others. -/
theorem foldl_meet (frontier : Frontier) (visits : List Visit) :
    visits.foldl meet frontier =
      ⟨fun piles => frontier.met piles || visits.any (·.piles == piles),
        frontier.pending ++ Visit.newcomers frontier.met visits⟩ := by
  induction visits generalizing frontier with
  | nil => simp [Visit.newcomers]
  | cons visit visits inductionHypothesis =>
      rw [List.foldl_cons, inductionHypothesis, Visit.newcomers, meet]
      by_cases known : frontier.met visit.piles = true
      · -- the position of the visit has been met, so nothing new is said of it
        have same : ∀ piles, (frontier.met piles || visit.piles == piles) = frontier.met piles := by
          intro piles
          by_cases here : visit.piles = piles
          · simp [← here, known]
          · simp [here]
        simp [known, ← Bool.or_assoc, same]
      · simp [known, Bool.or_assoc]

end Frontier

/-- An explorer of the game with states of type `σ`. -/
class Explorer (σ : Type) where
  /-- Before the first visit, in the game of this size. -/
  start : Nat → σ
  /-- The size of the game. -/
  size : σ → Nat
  /-- Whether a position was met. -/
  met : σ → Piles → Bool
  /-- The visits that are still to be made. -/
  pending : σ → List Visit
  /-- Number of visits so far. -/
  visited : σ → Nat
  /-- The hops to the visit by which the property of this name was discovered. -/
  discovery? : σ → String → Option (List Hop)
  /-- Whether there are no more visits to be made. -/
  stopped : σ → Bool
  /-- Makes one visit. -/
  advance : σ → σ

namespace Explorer

variable {σ : Type} [Explorer σ]

/-- Makes so many visits, or fewer if the explorer stops. -/
def proceed : Nat → σ → σ
  | 0, state => state
  | fuel + 1, state => if stopped state then state else proceed fuel (advance state)

/-- Explores the game of this size; it has three sites for every log, so there are
no more positions than visits to be made. -/
def run (size : Nat) : σ := proceed (Nat.pow 3 size) (start size)

end Explorer

open Explorer

/-- What is assumed of an explorer. -/
class BreadthFirst (σ : Type) [Explorer σ] : Prop where
  size_start (size : Nat) : Explorer.size (start size : σ) = size
  visited_start (size : Nat) : visited (start size : σ) = 0
  discovery?_start (size : Nat) (name : String) : discovery? (start size : σ) name = none
  /-- It sets out with a visit to the start. -/
  pending_start (size : Nat) : pending (start size : σ) = [⟨.start size, []⟩]
  /-- Nothing else has been met. -/
  met_start (size : Nat) (piles : Piles) : met (start size : σ) piles = (Piles.start size == piles)
  size_advance (state : σ) : Explorer.size (advance state) = Explorer.size state
  visited_advance {state : σ} {next : Visit} {rest : List Visit}
    (first : pending state = next :: rest) : visited (advance state) = visited state + 1
  /-- First in, first out: the visit that has been pending for the longest time is made, and those
  that follow from it are put behind the others in the order of the hops. -/
  first_in_first_out {state : σ} {next : Visit} {rest : List Visit}
    (first : pending state = next :: rest) :
    pending (advance state) = rest ++ Visit.newcomers (met state) next.successors
  /-- Each position once: what follows from a visit that is made has been met from then on. -/
  each_once {state : σ} {next : Visit} {rest : List Visit} (first : pending state = next :: rest)
    (piles : Piles) :
    met (advance state) piles = (met state piles || next.successors.any (·.piles == piles))
  /-- The first visit by which a property is discovered is taken down. -/
  takes_down {state : σ} {next : Visit} {rest : List Visit} (first : pending state = next :: rest)
    {expectation : Piles.Expectation} {name : String} {holds : Bool}
    (property : (expectation, name, holds) ∈ next.piles.properties (Explorer.size state)) :
    discovery? (advance state) name =
      Visit.firstPath (discovery? state name) next (expectation.discovers holds)
  /-- The stop rule: nothing is left, or every property has a discovery. -/
  stopped_iff (state : σ) :
    stopped state = true ↔ pending state = [] ∨
      ∀ property ∈ (Piles.start (Explorer.size state)).properties (Explorer.size state),
        (discovery? state property.2.1).isSome = true

end LogPiles
