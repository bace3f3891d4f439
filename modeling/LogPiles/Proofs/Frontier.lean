import Mathlib.Data.List.Basic
import LogPiles.Explorer

/-!
# The frontier of an explorer

An explorer is judged by two lists: the visits that were made, and behind them
those that are pending.  Together they are the order in which the positions were
met.  Four things hold of this queue at any time (`Frontier.Orderly`).  Each visit
knows a path to its position, no position stands in it twice, it is sorted by the
length of the paths, and no pending visit is more than one hop longer than another
one.  The last two carry each other: what is met next is one hop longer than the
visit that is being made, so it belongs behind all others.

What leads on from a visit that was made is in the queue as well, on a path that
is no longer (`Frontier.Covers`).  All this is said of the frontier alone, to which
the assumptions of `BreadthFirst` reduce a visit (`Explorer.frontier_advance`), so
nothing here depends on how an explorer keeps it.
-/

namespace LogPiles

namespace Visit

variable {size : Nat} {visit other : Visit}

/-- The hops of a visit lead to its position. -/
def Arrives (size : Nat) (visit : Visit) : Prop :=
  (Piles.start size).follow? visit.path = some visit.piles

@[simp]
theorem length_path (visit : Visit) : visit.path.length = visit.trail.length :=
  List.length_reverse

theorem mem_successors :
    other ∈ visit.successors ↔
      ∃ hop, visit.piles.next? hop = some other.piles ∧ other.trail = hop :: visit.trail := by
  obtain ⟨piles, trail⟩ := other
  simp only [successors, List.mem_filterMap, Option.map_eq_some_iff, Piles.mem_legalHops]
  constructor
  · rintro ⟨hop, -, next, made, same⟩
    cases same
    exact ⟨hop, made, rfl⟩
  · rintro ⟨hop, made, rfl⟩
    exact ⟨hop, (Piles.next?_eq_some_iff.1 made).1, piles, made, rfl⟩

theorem length_successor (inside : other ∈ visit.successors) :
    other.trail.length = visit.trail.length + 1 := by
  obtain ⟨hop, -, longer⟩ := mem_successors.1 inside
  rw [longer, List.length_cons]

theorem Arrives.successor (arrives : visit.Arrives size) (inside : other ∈ visit.successors) :
    other.Arrives size := by
  obtain ⟨hop, made, longer⟩ := mem_successors.1 inside
  have path : other.path = visit.path ++ [hop] := by
    rw [Visit.path, longer, List.reverse_cons, Visit.path]
  rw [Arrives, path, Piles.follow?_append, arrives]
  simp [made]

end Visit

namespace Frontier

variable {size length : Nat} {frontier after : Frontier} {made visits rest : List Visit}
  {visit other next : Visit}

/-- A visit in the queue has this position and a path that is no longer. -/
def Covers (made : List Visit) (frontier : Frontier) (visit : Visit) : Prop :=
  ∃ other ∈ made ++ frontier.pending,
    other.piles = visit.piles ∧ other.trail.length ≤ visit.trail.length

/-- The order of the queue: the visits that were made, and behind them the pending ones. -/
structure Orderly (size : Nat) (made : List Visit) (frontier : Frontier) : Prop where
  arrives : ∀ visit ∈ made ++ frontier.pending, visit.Arrives size
  met_iff : ∀ piles, frontier.met piles = true ↔
    ∃ visit ∈ made ++ frontier.pending, visit.piles = piles
  once : (made ++ frontier.pending).Pairwise (·.piles ≠ ·.piles)
  sorted : (made ++ frontier.pending).Pairwise (·.trail.length ≤ ·.trail.length)
  narrow : ∀ visit ∈ frontier.pending, ∀ other ∈ frontier.pending,
    other.trail.length ≤ visit.trail.length + 1

/-- A visit of this length belongs behind the queue. -/
structure Ready (made : List Visit) (frontier : Frontier) (length : Nat) : Prop where
  farthest : ∀ other ∈ made ++ frontier.pending, other.trail.length ≤ length
  narrow : ∀ other ∈ frontier.pending, length ≤ other.trail.length + 1

/-- A position is put behind the queue unless it was met before. -/
theorem meet_cases (frontier : Frontier) (visit : Visit) :
    (frontier.met visit.piles = true ∧ frontier.meet visit = frontier) ∨
      (frontier.met visit.piles = false ∧ frontier.meet visit =
        ⟨fun piles => frontier.met piles || visit.piles == piles, frontier.pending ++ [visit]⟩) := by
  cases known : frontier.met visit.piles <;> simp [meet, known]

/-- The queue only grows. -/
theorem Covers.meet (covers : frontier.Covers made visit) (other : Visit) :
    (frontier.meet other).Covers made visit := by
  obtain ⟨first, inside, same, short⟩ := covers
  refine ⟨first, ?_, same, short⟩
  obtain ⟨-, unchanged⟩ | ⟨-, longer⟩ := frontier.meet_cases other
  · rwa [unchanged]
  · rw [longer, ← List.append_assoc]
    exact List.mem_append_left _ inside

theorem Covers.meetAll (covers : frontier.Covers made visit) (visits : List Visit) :
    (visits.foldl Frontier.meet frontier).Covers made visit := by
  induction visits generalizing frontier with
  | nil => exact covers
  | cons other visits inductionHypothesis => exact inductionHypothesis (covers.meet other)

/-- The queue is the same when its first pending visit counts as made. -/
theorem Covers.pop (covers : frontier.Covers made visit) (first : frontier.pending = next :: rest)
    (left : after.pending = rest) : after.Covers (made ++ [next]) visit := by
  rwa [Covers, left, ← List.append_cons, ← first]

theorem Ready.meet (ready : frontier.Ready made length) (long : visit.trail.length = length) :
    (frontier.meet visit).Ready made length := by
  obtain ⟨-, unchanged⟩ | ⟨-, longer⟩ := frontier.meet_cases visit
  · rwa [unchanged]
  · rw [longer]
    constructor
    case farthest =>
      intro other inside
      rw [← List.append_assoc, List.mem_append, List.mem_singleton] at inside
      obtain earlier | rfl := inside
      · exact ready.farthest other earlier
      · exact Nat.le_of_eq long
    case narrow =>
      intro other inside
      obtain earlier | rfl := by simpa using inside
      · exact ready.narrow other earlier
      · omega

namespace Orderly

/-- The queue in which the start is the only visit. -/
theorem start (size : Nat) :
    Orderly size [] ⟨(Piles.start size == ·), [⟨.start size, []⟩]⟩ where
  arrives := by
    intro visit inside
    obtain rfl := List.mem_singleton.1 inside
    rfl
  met_iff := by
    intro piles
    simp
  once := List.pairwise_singleton _ _
  sorted := List.pairwise_singleton _ _
  narrow := by
    intro visit inside other inside'
    obtain rfl := List.mem_singleton.1 inside
    obtain rfl := List.mem_singleton.1 inside'
    exact Nat.le_succ _

/-- What is met is covered from then on. -/
theorem covers_meet (orderly : frontier.Orderly size made)
    (ready : frontier.Ready made visit.trail.length) : (frontier.meet visit).Covers made visit := by
  obtain ⟨known, unchanged⟩ | ⟨-, longer⟩ := frontier.meet_cases visit
  · obtain ⟨first, inside, same⟩ := (orderly.met_iff _).1 known
    rw [unchanged]
    exact ⟨first, inside, same, ready.farthest first inside⟩
  · rw [longer]
    exact ⟨visit, by simp, rfl, Nat.le_refl _⟩

/-- A visit that belongs behind the queue may be met. -/
theorem meet (orderly : frontier.Orderly size made) (arrives : visit.Arrives size)
    (ready : frontier.Ready made visit.trail.length) : (frontier.meet visit).Orderly size made := by
  obtain ⟨-, unchanged⟩ | ⟨fresh, longer⟩ := frontier.meet_cases visit
  · rwa [unchanged]
  have unmet : ∀ other ∈ made ++ frontier.pending, other.piles ≠ visit.piles := by
    intro other inside same
    rw [(orderly.met_iff _).2 ⟨other, inside, same⟩] at fresh
    cases fresh
  rw [longer]
  constructor
  case arrives =>
    intro other inside
    rw [← List.append_assoc, List.mem_append, List.mem_singleton] at inside
    obtain earlier | rfl := inside
    · exact orderly.arrives other earlier
    · exact arrives
  case met_iff =>
    intro piles
    show (frontier.met piles || visit.piles == piles) = true ↔
      ∃ other ∈ made ++ (frontier.pending ++ [visit]), other.piles = piles
    rw [Bool.or_eq_true, beq_iff_eq, orderly.met_iff, ← List.append_assoc]
    generalize made ++ frontier.pending = queue
    simp only [List.mem_append, List.mem_singleton, or_and_right, exists_or, exists_eq_left]
  case once =>
    rw [← List.append_assoc, List.pairwise_append]
    refine ⟨orderly.once, List.pairwise_singleton _ _, ?_⟩
    simpa using unmet
  case sorted =>
    rw [← List.append_assoc, List.pairwise_append]
    refine ⟨orderly.sorted, List.pairwise_singleton _ _, ?_⟩
    simpa using ready.farthest
  case narrow =>
    intro first inside second inside'
    simp only [List.mem_append, List.mem_singleton] at inside inside'
    obtain earlier | rfl := inside <;> obtain earlier' | rfl := inside'
    · exact orderly.narrow first earlier second earlier'
    · exact ready.narrow first earlier
    · exact Nat.le_succ_of_le (ready.farthest second (List.mem_append_right _ earlier'))
    · exact Nat.le_succ _

/-- So may several visits of this length, one after the other. -/
theorem meetAll (orderly : frontier.Orderly size made) (ready : frontier.Ready made length)
    (arrive : ∀ visit ∈ visits, visit.Arrives size)
    (long : ∀ visit ∈ visits, visit.trail.length = length) :
    (visits.foldl Frontier.meet frontier).Orderly size made ∧
      ∀ visit ∈ visits, (visits.foldl Frontier.meet frontier).Covers made visit := by
  induction visits generalizing frontier with
  | nil => exact ⟨orderly, fun visit inside => absurd inside List.not_mem_nil⟩
  | cons first visits inductionHypothesis =>
      obtain ⟨arrivesFirst, arriveLater⟩ := List.forall_mem_cons.1 arrive
      obtain ⟨longFirst, longLater⟩ := List.forall_mem_cons.1 long
      have readyFirst : frontier.Ready made first.trail.length := longFirst ▸ ready
      obtain ⟨ordered, covered⟩ := inductionHypothesis (orderly.meet arrivesFirst readyFirst)
        (ready.meet longFirst) arriveLater longLater
      refine ⟨ordered, List.forall_mem_cons.2 ⟨?_, covered⟩⟩
      exact (orderly.covers_meet readyFirst).meetAll visits

/-- The queue stays as it is when its first pending visit counts as made. -/
theorem pop (orderly : frontier.Orderly size made) (first : frontier.pending = next :: rest)
    (left : after.pending = rest) (same : after.met = frontier.met) :
    after.Orderly size (made ++ [next]) := by
  obtain ⟨arrives, met_iff, once, sorted, narrow⟩ := orderly
  rw [first, List.append_cons, ← left] at arrives met_iff once sorted
  refine ⟨arrives, same ▸ met_iff, once, sorted, ?_⟩
  intro visit inside other inside'
  rw [left] at inside inside'
  rw [first] at narrow
  exact narrow visit (List.mem_cons_of_mem _ inside) other (List.mem_cons_of_mem _ inside')

/-- Behind the queue belongs what is one hop longer than its first pending visit. -/
theorem ready (orderly : frontier.Orderly size made) (first : frontier.pending = next :: rest)
    (left : after.pending = rest) : after.Ready (made ++ [next]) (next.trail.length + 1) := by
  have sorted := orderly.sorted
  rw [first, List.pairwise_append, List.pairwise_cons] at sorted
  obtain ⟨-, ⟨later, -⟩, earlier⟩ := sorted
  constructor
  case farthest =>
    intro other inside
    rw [left, ← List.append_cons, List.mem_append] at inside
    obtain before | waiting := inside
    · exact Nat.le_succ_of_le (earlier other before next List.mem_cons_self)
    · rw [← first] at waiting
      exact orderly.narrow next (first ▸ List.mem_cons_self) other waiting
  case narrow =>
    intro other inside
    rw [left] at inside
    exact Nat.succ_le_succ (later other inside)

end Orderly

end Frontier

/-- The first visit with a property is known from then on. -/
theorem Visit.firstPath_find? (made : List Visit) (visit : Visit) (test : Visit → Bool) :
    firstPath ((made.find? test).map Visit.path) visit (test visit) =
      ((made ++ [visit]).find? test).map Visit.path := by
  rw [firstPath, List.find?_append]
  cases made.find? test <;> cases found : test visit <;> simp [found]

namespace Explorer

variable {σ : Type} [Explorer σ] {size : Nat} {state : σ} {made rest : List Visit} {next : Visit}

/-- What an explorer has met, and what is pending. -/
def frontier (state : σ) : Frontier := ⟨met state, pending state⟩

/-- What an explorer takes down follows from the visits that were made. -/
structure Noted (size : Nat) (made : List Visit) (state : σ) : Prop where
  size_eq : Explorer.size state = size
  visited_eq : visited state = made.length
  lost_eq : discovery? state "UnitsConserved" =
    (made.find? fun visit => !visit.piles.conserved size).map Visit.path
  disordered_eq : discovery? state "PilesOrdered" =
    (made.find? fun visit => !visit.piles.ordered).map Visit.path
  solved_eq : discovery? state "Solved" =
    (made.find? fun visit => visit.piles.solved size).map Visit.path

/-- What holds of an explorer whenever it pauses between two visits. -/
structure Sound (size : Nat) (made : List Visit) (state : σ) : Prop
    extends (frontier state).Orderly size made, Noted size made state where
  rooted : (frontier state).Covers made ⟨.start size, []⟩
  closed : ∀ visit ∈ made, ∀ next ∈ visit.successors, (frontier state).Covers made next

/-- The visits that are made in so many turns, in their order. -/
def journal : Nat → σ → List Visit
  | 0, _ => []
  | fuel + 1, state =>
    if stopped state then [] else (pending state).take 1 ++ journal fuel (advance state)

variable [BreadthFirst σ]

open BreadthFirst

theorem frontier_start (size : Nat) :
    frontier (start size : σ) = ⟨(Piles.start size == ·), [⟨.start size, []⟩]⟩ := by
  rw [frontier, pending_start, funext (met_start size)]

/-- What an explorer knows after a visit is known from its frontier. -/
theorem frontier_advance (first : pending state = next :: rest) :
    frontier (advance state) = next.successors.foldl Frontier.meet ⟨met state, rest⟩ := by
  rw [Frontier.foldl_meet, frontier, first_in_first_out first, funext (each_once first)]

/-- An explorer that has not stopped has a visit to make. -/
theorem exists_pending (going : stopped state = false) :
    ∃ next rest, pending state = next :: rest := by
  cases queue : pending state with
  | nil =>
      rw [(stopped_iff state).2 (.inl queue)] at going
      cases going
  | cons next rest => exact ⟨next, rest, rfl⟩

theorem Noted.advance (noted : Noted size made state) (first : pending state = next :: rest) :
    Noted size (made ++ [next]) (advance state) := by
  obtain ⟨rfl, visited_eq, lost_eq, disordered_eq, solved_eq⟩ := noted
  constructor
  case size_eq => exact size_advance state
  case visited_eq =>
    rw [visited_advance first, visited_eq, List.length_append, List.length_singleton]
  case lost_eq =>
    rw [← Visit.firstPath_find?, ← lost_eq]
    exact takes_down first (.head _)
  case disordered_eq =>
    rw [← Visit.firstPath_find?, ← disordered_eq]
    exact takes_down first (.tail _ (.head _))
  case solved_eq =>
    rw [← Visit.firstPath_find?, ← solved_eq]
    exact takes_down first (.tail _ (.tail _ (.head _)))

namespace Sound

theorem start (size : Nat) : Sound size [] (Explorer.start size : σ) where
  toOrderly := by
    rw [frontier_start]
    exact .start size
  size_eq := size_start size
  visited_eq := visited_start size
  lost_eq := discovery?_start size _
  disordered_eq := discovery?_start size _
  solved_eq := discovery?_start size _
  rooted := by
    rw [frontier_start]
    exact ⟨_, List.mem_singleton_self _, rfl, Nat.le_refl _⟩
  closed := by
    intro visit inside
    cases inside

/-- The first pending visit may be made. -/
theorem advance (sound : Sound size made state) (first : pending state = next :: rest) :
    Sound size (made ++ [next]) (Explorer.advance state) := by
  have arrives : next.Arrives size := sound.arrives next (by simp [frontier, first])
  have popped : Frontier.Orderly size (made ++ [next]) ⟨met state, rest⟩ :=
    sound.toOrderly.pop first rfl rfl
  have ready : Frontier.Ready (made ++ [next]) ⟨met state, rest⟩ (next.trail.length + 1) :=
    sound.toOrderly.ready first rfl
  have kept : ∀ {visit : Visit}, (frontier state).Covers made visit →
      (frontier (Explorer.advance state)).Covers (made ++ [next]) visit := by
    intro visit covers
    rw [frontier_advance first]
    exact (covers.pop first rfl).meetAll next.successors
  obtain ⟨orderly, covered⟩ := popped.meetAll ready (fun _ => arrives.successor)
    (fun _ => Visit.length_successor)
  rw [← frontier_advance first] at orderly covered
  refine ⟨orderly, sound.toNoted.advance first, kept sound.rooted, ?_⟩
  intro visit inside other follows
  rw [List.mem_append, List.mem_singleton] at inside
  obtain earlier | rfl := inside
  · exact kept (sound.closed visit earlier other follows)
  · exact covered other follows

end Sound

/-- However long an explorer goes on, it stays sound. -/
theorem Sound.proceed (sound : Sound size made state) (fuel : Nat) :
    Sound size (made ++ journal fuel state) (Explorer.proceed fuel state) := by
  induction fuel generalizing state made with
  | zero => simpa [journal, Explorer.proceed] using sound
  | succ fuel inductionHypothesis =>
      cases halted : stopped state with
      | true => simpa [journal, Explorer.proceed, halted] using sound
      | false =>
          obtain ⟨next, rest, first⟩ := exists_pending halted
          have later := inductionHypothesis (sound.advance first)
          rw [List.append_assoc] at later
          simpa [journal, Explorer.proceed, halted, first] using later

/-- An explorer that has not stopped has made as many visits as it was given. -/
theorem length_journal (fuel : Nat) (state : σ) :
    (journal fuel state).length ≤ fuel ∧
      (stopped (Explorer.proceed fuel state) = false → (journal fuel state).length = fuel) := by
  induction fuel generalizing state with
  | zero => exact ⟨Nat.le_refl 0, fun _ => rfl⟩
  | succ fuel inductionHypothesis =>
      cases halted : stopped state with
      | true => simp [journal, Explorer.proceed, halted]
      | false =>
          obtain ⟨next, rest, first⟩ := exists_pending halted
          obtain ⟨within, all⟩ := inductionHypothesis (Explorer.advance state)
          simp only [journal, Explorer.proceed, halted, first, Bool.false_eq_true, if_false,
            List.take_succ_cons, List.take_zero, List.singleton_append, List.length_cons]
          exact ⟨Nat.succ_le_succ within, fun unfinished => congrArg Nat.succ (all unfinished)⟩

end Explorer

end LogPiles
