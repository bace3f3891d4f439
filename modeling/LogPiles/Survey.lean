import LogPiles.Explorer
import Std.Data.HashSet

/-!
# Breadth-first survey of the positions

A survey is an explorer that keeps the positions it has met in a hash set and the
visits it has still to make in a list.  It also counts how often a position was met
and how deep it has gone.  The lemmas at the end show that a survey is breadth
first in the sense of `BreadthFirst`.
-/

namespace LogPiles

/-- A survey in progress. -/
structure Survey where
  size : Nat
  /-- The positions met so far. -/
  met : Std.HashSet Piles
  /-- The positions met but not visited, in the order in which they were met. -/
  pending : List Visit
  /-- Number of positions visited. -/
  visited : Nat := 0
  /-- Number of times that a position was met, the start included. -/
  generated : Nat := 1
  /-- The greatest depth of a visit; the start has depth `1`. -/
  depth : Nat := 0
  /-- The hops to the first position in which a log is missing or doubled. -/
  lost? : Option (List Hop) := none
  /-- The hops to the first position in which a log lies on a smaller one. -/
  disordered? : Option (List Hop) := none
  /-- The hops to the first position in which all logs are in the hideout. -/
  solved? : Option (List Hop) := none

namespace Survey

/-- The largest size of a model that is built to be surveyed. -/
def limit : Nat := 8

/-- Accepts the sizes whose positions are worth surveying. -/
def accept (size : Nat) : Except Breach Unit :=
  if size ≤ limit then .ok () else .error (.modelTooLarge size)

/-- A survey that has only met the start. -/
def start (size : Nat) : Survey where
  size := size
  met := Std.HashSet.emptyWithCapacity.insert (Piles.start size)
  pending := [⟨.start size, []⟩]

/-- Takes note of a position, unless it was met before. -/
def meet (survey : Survey) (visit : Visit) : Survey :=
  if survey.met.contains visit.piles then
    survey
  else
    { survey with
      met := survey.met.insert visit.piles
      pending := survey.pending ++ [visit] }

/-- Takes down what a visit discovers. -/
def look (survey : Survey) (visit : Visit) : Survey :=
  { survey with
    visited := survey.visited + 1
    generated := survey.generated + visit.successors.length
    depth := max survey.depth (visit.trail.length + 1)
    lost? := Visit.firstPath survey.lost? visit (!visit.piles.conserved survey.size)
    disordered? := Visit.firstPath survey.disordered? visit (!visit.piles.ordered)
    solved? := Visit.firstPath survey.solved? visit (visit.piles.solved survey.size) }

/-- Makes the visit that is first in the queue. -/
def advance (survey : Survey) : Survey :=
  match survey.pending with
  | [] => survey
  | next :: rest => next.successors.foldl meet ({ survey with pending := rest }.look next)

/-- The hops to the position by which the property of this name was discovered. -/
def discovery? (survey : Survey) (name : String) : Option (List Hop) :=
  if name = "UnitsConserved" then survey.lost?
  else if name = "PilesOrdered" then survey.disordered?
  else if name = "Solved" then survey.solved?
  else none

/-- Nothing is left to be visited, or each of the three properties has been
discovered. -/
def stopped (survey : Survey) : Bool :=
  survey.pending.isEmpty ||
    survey.lost?.isSome && survey.disordered?.isSome && survey.solved?.isSome

instance : Explorer Survey where
  start := start
  size := size
  met survey piles := survey.met.contains piles
  pending := pending
  visited := visited
  discovery? := discovery?
  stopped := stopped
  advance := advance

/-- Surveys all positions of a lair of this size. -/
def run (size : Nat) : Survey := Explorer.run size

/-! ## A survey is breadth first -/

/-- What a survey has met, and what is pending. -/
def frontier (survey : Survey) : Frontier := ⟨survey.met.contains, survey.pending⟩

theorem frontier_meet (survey : Survey) (visit : Visit) :
    (survey.meet visit).frontier = survey.frontier.meet visit := by
  unfold meet Frontier.meet frontier
  split
  · rfl
  · congr 1
    funext piles
    rw [Std.HashSet.contains_insert, Bool.or_comm]

/-- Meeting positions changes nothing but the frontier. -/
theorem foldl_meet (survey : Survey) (visits : List Visit) :
    ∃ met pending, visits.foldl meet survey = { survey with met := met, pending := pending } := by
  induction visits generalizing survey with
  | nil => exact ⟨_, _, rfl⟩
  | cons visit visits inductionHypothesis =>
      obtain ⟨met, pending, same⟩ := inductionHypothesis (survey.meet visit)
      refine ⟨met, pending, ?_⟩
      rw [List.foldl_cons, same, meet]
      split <;> rfl

variable {survey : Survey} {next : Visit} {rest : List Visit}

/-- A visit takes down what it discovers, and for the rest it changes the frontier. -/
theorem exists_advance (first : survey.pending = next :: rest) :
    ∃ met pending, survey.advance = { survey.look next with met := met, pending := pending } := by
  obtain ⟨met, pending, same⟩ := foldl_meet ({ survey with pending := rest }.look next)
    next.successors
  refine ⟨met, pending, ?_⟩
  rw [advance, first]
  exact same

theorem frontier_advance (first : survey.pending = next :: rest) :
    survey.advance.frontier =
      next.successors.foldl Frontier.meet ⟨survey.met.contains, rest⟩ := by
  rw [advance, first]
  exact (List.foldl_hom frontier fun survey visit => (survey.frontier_meet visit).symm).symm

instance : BreadthFirst Survey where
  size_start _ := rfl
  visited_start _ := rfl
  discovery?_start size name := by
    show discovery? (start size) name = none
    simp [discovery?, start]
  pending_start _ := rfl
  met_start size piles := by
    show (start size).met.contains piles = _
    simp [start]
  size_advance survey := by
    show survey.advance.size = survey.size
    cases first : survey.pending with
    | nil => rw [advance, first]
    | cons next rest =>
        obtain ⟨met, pending, same⟩ := exists_advance first
        rw [same]
        rfl
  visited_advance := by
    intro survey next rest first
    show survey.advance.visited = survey.visited + 1
    obtain ⟨met, pending, same⟩ := exists_advance first
    rw [same]
    rfl
  first_in_first_out := by
    intro survey next rest first
    have turned := frontier_advance first
    rw [Frontier.foldl_meet] at turned
    exact congrArg Frontier.pending turned
  each_once := by
    intro survey next rest first piles
    have turned := frontier_advance first
    rw [Frontier.foldl_meet] at turned
    exact congrFun (congrArg Frontier.met turned) piles
  takes_down := by
    intro survey next rest first expectation name holds property
    show survey.advance.discovery? name = Visit.firstPath (survey.discovery? name) next _
    obtain ⟨met, pending, same⟩ := exists_advance first
    rw [same]
    simp only [Piles.properties, List.mem_cons, Prod.mk.injEq, List.not_mem_nil, or_false]
      at property
    obtain ⟨rfl, rfl, rfl⟩ | ⟨rfl, rfl, rfl⟩ | ⟨rfl, rfl, rfl⟩ := property <;> rfl
  stopped_iff survey := by
    show survey.stopped = true ↔ survey.pending = [] ∨
      ∀ property ∈ (Piles.start survey.size).properties survey.size,
        (survey.discovery? property.2.1).isSome = true
    simp [stopped, Piles.properties, discovery?, and_assoc]

end Survey

end LogPiles
