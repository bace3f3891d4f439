import LogPiles.Proofs.Distance
import LogPiles.Proofs.Solution

/-!
# The solution is the shortest path

The game has a shortest path from the start to a full hideout, there is only
one, and it is what solving a lair does.  The lower bound holds for lairs of any
size; that the path is attained needs a lair that can be built.
-/

namespace LogPiles

namespace Piles

/-- From the start it takes one less than a power of two. -/
theorem distance_start (size : Nat) :
    Placement.distance (fun _ => .forest) size .hideout = 2 ^ size - 1 :=
  Placement.Gathered.distance_of_ne (fun _ _ => rfl) (by decide)

/-- Every path from the start to a full hideout has at least that many hops. -/
theorem length_of_solution {size : Nat} {hops : List Hop} {final : Piles}
    (path : (start size).follow? hops = some final) (solved : final.solved size = true) :
    2 ^ size - 1 ≤ hops.length := by
  rw [← Placement.piles_forest] at path
  rw [← distance_start]
  exact Placement.distance_le_length path solved

theorem solved_script (size : Nat) : solved size ⟨[], [], logsUpTo size⟩ = true := by
  simp [solved]

/-- A path with no more hops is the script. -/
theorem eq_script_of_length {size : Nat} {hops : List Hop} {final : Piles}
    (path : (start size).follow? hops = some final) (solved : final.solved size = true)
    (short : hops.length = 2 ^ size - 1) : hops = Lair.script size := by
  have script := follow?_script size
  rw [← Placement.piles_forest] at path script
  rw [← distance_start] at short
  refine Placement.shortest_path_unique path solved short script (solved_script size) ?_
  rw [length_itinerary, distance_start, leastMoves_eq]

end Piles

/-- What a chronicle tells of one of its moves: the hops before it are a path of the game, and
where they lead its log lies on top of its source. -/
theorem Lair.Chronicle.top? {lair : Lair} {done : Nat} {calls : List (Move × Lair)}
    (story : lair.Chronicle done calls) {before later : List Move} {move : Move}
    (split : calls.map Prod.fst = before ++ move :: later) :
    ∃ position, lair.position.follow? (before.map Move.hop) = some position ∧
      position.top? move.source = some move.log := by
  obtain ⟨earlier, rest, rfl, rfl, told⟩ := List.map_eq_append_iff.1 split
  obtain ⟨call, others, rfl, rfl, -⟩ := List.map_eq_cons_iff.1 told
  obtain ⟨first, -, -, top, -⟩ := Lair.chronicle_append.1 story
  refine ⟨_, ?_, top⟩
  rw [List.map_map]
  exact first.follow?

/-- No path of the game fills the hideout in fewer than `2 ^ size - 1` moves, and the only one
that does it in so many is the solution: the moves that are recorded while a lair is solved.
The rule of the game allows each of them, and each takes the log that lies on top. -/
theorem shortest_solution_unique (size : Nat) :
    (∀ hops final, (Piles.start size).follow? hops = some final → final.solved size = true →
      2 ^ size - 1 ≤ hops.length) ∧
    ∀ lair, Lair.ofNat size = .ok lair → ∀ strategy : Strategy, ∃ attempt,
      lair.solve strategy Observer.record History.empty = .ok attempt ∧
      (∃ final, (Piles.start size).follow? (attempt.seen.toList.map Move.hop) = some final ∧
        final.solved size = true) ∧
      (∀ before move later, attempt.seen.toList = before ++ move :: later →
        ∃ position, (Piles.start size).follow? (before.map Move.hop) = some position ∧
          position.top? move.source = some move.log) ∧
      ∀ hops final, (Piles.start size).follow? hops = some final → final.solved size = true →
        hops.length = 2 ^ size - 1 → hops = attempt.seen.toList.map Move.hop := by
  constructor
  · intro hops final path solved
    exact Piles.length_of_solution path solved
  intro lair built strategy
  obtain ⟨within, rfl⟩ := Lair.ofNat_eq_ok_iff.1 built
  obtain ⟨quiet, recorded⟩ := Lair.transcript_record strategy (Lair.fresh size)
  obtain ⟨solved, hops⟩ := Lair.solve_fresh within quiet
  have story := Lair.chronicle_transcript strategy Observer.record History.empty (Lair.fresh size)
  refine ⟨_, solved, ?_, ?_, ?_⟩
  · rw [recorded, hops]
    exact ⟨_, Piles.follow?_script size, Piles.solved_script size⟩
  · intro before move later split
    rw [recorded] at split
    exact story.top? split
  · intro hops' final path full short
    rw [recorded, hops]
    exact Piles.eq_script_of_length path full short

/-- Two logs: a path of three hops is the recorded one. -/
theorem shortest_solution_unique_two :
    ∃ attempt,
      (Lair.fresh 2).solve .iterative Observer.record History.empty = .ok attempt ∧
      2 ^ 2 - 1 ≤ [(⟨.forest, .base⟩ : Hop), ⟨.forest, .hideout⟩, ⟨.base, .hideout⟩].length ∧
      [(⟨.forest, .base⟩ : Hop), ⟨.forest, .hideout⟩, ⟨.base, .hideout⟩] =
        attempt.seen.toList.map Move.hop := by
  obtain ⟨attempt, solved, -, -, unique⟩ :=
    (shortest_solution_unique 2).2 (Lair.fresh 2) rfl .iterative
  exact ⟨attempt, solved, (shortest_solution_unique 2).1 _ ⟨[], [], [1, 2]⟩ rfl rfl,
    unique _ ⟨[], [], [1, 2]⟩ rfl rfl rfl⟩

end LogPiles
