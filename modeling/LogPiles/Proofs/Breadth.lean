import LogPiles.Proofs.Connectivity
import LogPiles.Proofs.Frontier
import LogPiles.Proofs.Optimality
import LogPiles.Survey

/-!
# What a breadth-first exploration finds

Follow a path from the start hop by hop, and look where it stands in the queue of
an explorer.  Either the queue has each of its positions, on a path that is no
longer, or the path has left the visits that were made, and then it did so at a
pending visit that is shorter than the path (`Explorer.Sound.covers_or`).  Since
the queue is sorted, no visit in it can be longer than any path to its position
(`Explorer.Sound.shortest`), and an explorer with nothing pending has made a visit
to whatever can be reached (`Explorer.Sound.complete`).

The rest is known of the game.  It can reach `3 ^ size` positions, so that is the
number of visits, neither less nor more.  All of them meet the invariants, and
only one shortest path fills the hideout.
-/

namespace LogPiles

namespace Piles

variable {size : Nat} {positions : List Piles}

theorem finite_reachable (size : Nat) : {piles | Reachable size piles}.Finite := by
  refine Set.finite_of_ncard_ne_zero ?_
  rw [Placement.ncard_reachable]
  exact pow_ne_zero size (by decide)

/-- Different positions that can be reached are at most `3 ^ size`. -/
theorem length_le_of_reachable (once : positions.Nodup)
    (reachable : ∀ piles ∈ positions, Reachable size piles) : positions.length ≤ 3 ^ size := by
  rw [← Placement.ncard_reachable, ← List.toFinset_card_of_nodup once, ← Set.ncard_coe_finset]
  refine Set.ncard_le_ncard ?_ (finite_reachable size)
  intro piles inside
  exact reachable piles (List.mem_toFinset.1 inside)

/-- If they are all that can be reached they are exactly so many. -/
theorem length_eq_of_reachable (once : positions.Nodup)
    (reachable : ∀ piles, piles ∈ positions ↔ Reachable size piles) :
    positions.length = 3 ^ size := by
  rw [← Placement.ncard_reachable, ← List.toFinset_card_of_nodup once, ← Set.ncard_coe_finset]
  congr 1
  ext piles
  simp [reachable]

/-- There is one position only with a full hideout that can be reached. -/
theorem Reachable.eq_of_solved {piles : Piles} (reachable : Reachable size piles)
    (solved : piles.solved size = true) : piles = ⟨[], [], logsUpTo size⟩ := by
  obtain ⟨place, rfl⟩ := Placement.reachable_iff_exists.1 reachable
  rw [(Placement.gathered_of_solved solved).piles_eq, Placement.piles_gathered]
  rfl

end Piles

theorem Visit.Arrives.reachable {size : Nat} {visit : Visit} (arrives : visit.Arrives size) :
    Piles.Reachable size visit.piles :=
  Piles.reachable_iff_follow?.2 ⟨_, arrives⟩

namespace Explorer

variable {σ : Type} [Explorer σ] {size : Nat} {state : σ} {made : List Visit} {visit other : Visit}
  {hops : List Hop} {piles : Piles}

namespace Sound

/-- Wherever a path leads, the queue was there on a path that is no longer, unless a visit is
pending that is shorter than the path. -/
theorem covers_or (sound : Sound size made state)
    (path : (Piles.start size).follow? hops = some piles) :
    (frontier state).Covers made ⟨piles, hops.reverse⟩ ∨
      ∃ waiting ∈ pending state, waiting.trail.length < hops.length := by
  induction hops using List.reverseRecOn generalizing piles with
  | nil =>
      cases path
      exact .inl sound.rooted
  | append_singleton hops hop inductionHypothesis =>
      rw [Piles.follow?_append] at path
      obtain ⟨middle, before, last⟩ := Option.bind_eq_some_iff.1 path
      have made_hop : middle.next? hop = some piles := by simpa using last
      rw [List.length_append, List.length_singleton]
      obtain ⟨first, inside, rfl, short⟩ | ⟨waiting, inside, shorter⟩ := inductionHypothesis before
      · rw [List.length_reverse] at short
        obtain visited | waits := List.mem_append.1 inside
        · left
          have follows : ⟨piles, hop :: first.trail⟩ ∈ first.successors :=
            Visit.mem_successors.2 ⟨hop, made_hop, rfl⟩
          obtain ⟨second, inside', same, short'⟩ := sound.closed first visited _ follows
          refine ⟨second, inside', same, short'.trans ?_⟩
          simpa using short
        · exact .inr ⟨first, waits, Nat.lt_succ_of_le short⟩
      · exact .inr ⟨waiting, inside, Nat.lt_succ_of_lt shorter⟩

/-- The queue knows a position by one visit only. -/
theorem eq_of_piles (sound : Sound size made state) (inside : visit ∈ made ++ pending state)
    (inside' : other ∈ made ++ pending state) (same : visit.piles = other.piles) :
    visit = other := by
  have once := List.pairwise_map.2 sound.once
  exact List.inj_on_of_nodup_map once inside inside' same

/-- No visit is longer than any path to its position. -/
theorem shortest (sound : Sound size made state) (inside : visit ∈ made ++ pending state)
    (path : (Piles.start size).follow? hops = some visit.piles) :
    visit.trail.length ≤ hops.length := by
  obtain ⟨first, inside', same, short⟩ | ⟨waiting, waits, shorter⟩ := sound.covers_or path
  · rw [sound.eq_of_piles inside inside' same.symm]
    simpa using short
  · -- a pending visit is not shorter than one that was made, nor by more than a hop than another
    obtain earlier | later := List.mem_append.1 inside
    · have sorted := (List.pairwise_append.1 sound.sorted).2.2 visit earlier waiting waits
      exact sorted.trans shorter.le
    · exact (sound.narrow waiting waits visit later).trans shorter

/-- A survey with nothing pending has visited what can be reached. -/
theorem complete (sound : Sound size made state) (done : pending state = []) (piles : Piles) :
    piles ∈ made.map Visit.piles ↔ Piles.Reachable size piles := by
  rw [List.mem_map]
  constructor
  · rintro ⟨visit, inside, rfl⟩
    exact (sound.arrives visit (List.mem_append_left _ inside)).reachable
  · intro reachable
    obtain ⟨hops, path⟩ := Piles.reachable_iff_follow?.1 reachable
    obtain ⟨visit, inside, same, -⟩ | ⟨waiting, waits, -⟩ := sound.covers_or path
    · change visit ∈ made ++ pending state at inside
      rw [done, List.append_nil] at inside
      exact ⟨visit, inside, same⟩
    · change waiting ∈ pending state at waits
      rw [done] at waits
      cases waits

/-- The queue is never longer than the number of positions. -/
theorem length_le (sound : Sound size made state) :
    made.length + (pending state).length ≤ 3 ^ size := by
  rw [← List.length_append, ← List.length_map Visit.piles]
  refine Piles.length_le_of_reachable (List.pairwise_map.2 sound.once) ?_
  intro piles known
  obtain ⟨visit, inside, rfl⟩ := List.mem_map.1 known
  exact (sound.arrives visit inside).reachable

theorem nodup_made (sound : Sound size made state) : (made.map Visit.piles).Nodup :=
  List.pairwise_map.2 (List.pairwise_append.1 sound.once).1

theorem length_made (sound : Sound size made state) (done : pending state = []) :
    made.length = 3 ^ size := by
  rw [← List.length_map Visit.piles]
  exact Piles.length_eq_of_reachable sound.nodup_made (sound.complete done)

/-- No visit is to a position that breaks an invariant. -/
theorem invariants (sound : Sound size made state) (inside : visit ∈ made) :
    visit.piles.conserved size = true ∧ visit.piles.ordered = true := by
  have arrives := sound.arrives visit (List.mem_append_left _ inside)
  rw [← Placement.exists_eq_piles_iff, ← Placement.reachable_iff_exists]
  exact arrives.reachable

theorem lost_eq_none (sound : Sound size made state) :
    discovery? state "UnitsConserved" = none := by
  rw [sound.lost_eq, Option.map_eq_none_iff, List.find?_eq_none]
  intro visit inside
  simp [(sound.invariants inside).1]

theorem disordered_eq_none (sound : Sound size made state) :
    discovery? state "PilesOrdered" = none := by
  rw [sound.disordered_eq, Option.map_eq_none_iff, List.find?_eq_none]
  intro visit inside
  simp [(sound.invariants inside).2]

/-- An explorer only stops when nothing is pending, since no invariant is broken. -/
theorem stopped_iff [BreadthFirst σ] (sound : Sound size made state) :
    stopped state = true ↔ pending state = [] := by
  rw [BreadthFirst.stopped_iff]
  constructor
  · rintro (done | discovered)
    · exact done
    · have lost := discovered _ (.head _)
      rw [sound.lost_eq_none] at lost
      cases lost
  · exact .inl

/-- When nothing is pending, the path to a full hideout is the script. -/
theorem solved_eq_script (sound : Sound size made state) (done : pending state = []) :
    discovery? state "Solved" = some (Lair.script size) := by
  have script := Piles.follow?_script size
  obtain ⟨full, inside, filled⟩ := List.mem_map.1
    ((sound.complete done _).2 (Piles.reachable_iff_follow?.2 ⟨_, script⟩))
  rw [sound.solved_eq]
  cases found : made.find? fun visit => visit.piles.solved size with
  | none =>
      rw [List.find?_eq_none] at found
      refine absurd ?_ (found full inside)
      rw [filled]
      exact Piles.solved_script size
  | some visit =>
      have inside' : visit ∈ made ++ pending state :=
        List.mem_append_left _ (List.mem_of_find?_eq_some found)
      have solved : visit.piles.solved size = true := by simpa using List.find?_some found
      have arrives := sound.arrives visit inside'
      rw [← arrives.reachable.eq_of_solved solved] at script
      have short := sound.shortest inside' script
      rw [← visit.length_path, length_itinerary, leastMoves_eq] at short
      have least := Piles.length_of_solution arrives solved
      rw [Option.map_some, Piles.eq_script_of_length arrives solved (Nat.le_antisymm short least)]

end Sound

variable [BreadthFirst σ]

/-- An explorer stops with the last position, and not before. -/
theorem stopped_proceed_iff (size fuel : Nat) :
    stopped (proceed fuel (start size : σ)) = true ↔ 3 ^ size ≤ fuel := by
  have sound := (Sound.start (σ := σ) size).proceed fuel
  obtain ⟨within, all⟩ := length_journal fuel (start size : σ)
  rw [List.nil_append] at sound
  constructor
  · intro done
    rwa [sound.length_made (sound.stopped_iff.1 done)] at within
  · intro enough
    by_contra unfinished
    rw [Bool.not_eq_true] at unfinished
    obtain ⟨next, rest, first⟩ := exists_pending unfinished
    have bound := sound.length_le
    rw [all unfinished, first, List.length_cons] at bound
    omega

/-- An explorer that is run makes all visits. -/
theorem sound_run (size : Nat) :
    pending (run size : σ) = [] ∧
      Sound size (journal (3 ^ size) (start size : σ)) (run size : σ) := by
  have sound := (Sound.start (σ := σ) size).proceed (3 ^ size)
  have finished := (stopped_proceed_iff (σ := σ) size (3 ^ size)).2 (Nat.le_refl _)
  exact ⟨sound.stopped_iff.1 finished, sound⟩

end Explorer

open Explorer

/-- Whoever explores the game breadth first stops after exactly `3 ^ size` visits, one to each
position that can be reached.  No violation of an invariant is discovered, and the path by which a
full hideout is discovered has `2 ^ size - 1` hops.  Where a lair of this size can be built, these
are the hops by which it is solved. -/
theorem survey_finds_solution {σ : Type} [Explorer σ] [BreadthFirst σ] (size : Nat) :
    (∀ fuel, stopped (proceed fuel (start size : σ)) = true ↔ 3 ^ size ≤ fuel) ∧
    visited (run size : σ) = 3 ^ size ∧
    ((journal (3 ^ size) (start size : σ)).map Visit.piles).Nodup ∧
    (∀ piles, piles ∈ (journal (3 ^ size) (start size : σ)).map Visit.piles ↔
      Piles.Reachable size piles) ∧
    discovery? (run size : σ) "UnitsConserved" = none ∧
    discovery? (run size : σ) "PilesOrdered" = none ∧
    ∃ path, discovery? (run size : σ) "Solved" = some path ∧ path.length = 2 ^ size - 1 ∧
      (∃ final, (Piles.start size).follow? path = some final ∧ final.solved size = true) ∧
      ∀ lair, Lair.ofNat size = .ok lair → ∀ strategy : Strategy, ∃ attempt,
        lair.solve strategy Observer.record History.empty = .ok attempt ∧
        attempt.answer = .ok (2 ^ size - 1) ∧ attempt.seen.toList.map Move.hop = path := by
  obtain ⟨done, sound⟩ := sound_run (σ := σ) size
  refine ⟨stopped_proceed_iff size, ?_, sound.nodup_made, sound.complete done,
    sound.lost_eq_none, sound.disordered_eq_none, _, sound.solved_eq_script done, ?_, ?_, ?_⟩
  · rw [sound.visited_eq, sound.length_made done]
  · rw [length_itinerary, leastMoves_eq]
  · exact ⟨_, Piles.follow?_script size, Piles.solved_script size⟩
  · intro lair built strategy
    obtain ⟨within, rfl⟩ := Lair.ofNat_eq_ok_iff.1 built
    obtain ⟨quiet, recorded⟩ := Lair.transcript_record strategy (Lair.fresh size)
    obtain ⟨solved, hops⟩ := Lair.solve_fresh within quiet
    exact ⟨_, solved, rfl, by rw [recorded, hops]⟩

/-- A survey of two logs: nine visits, and the path to a full hideout is how the lair is solved. -/
theorem survey_finds_solution_two :
    Lair.ofNat 2 = .ok (Lair.fresh 2) ∧ (Survey.run 2).visited = 9 ∧
      ∃ attempt, (Lair.fresh 2).solve .recursive Observer.record History.empty = .ok attempt ∧
        attempt.answer = .ok 3 ∧
        (Survey.run 2).solved? = some (attempt.seen.toList.map Move.hop) := by
  obtain ⟨-, visited, -, -, -, -, path, found, -, -, solves⟩ :=
    survey_finds_solution (σ := Survey) 2
  obtain ⟨attempt, solved, answer, same⟩ := solves (Lair.fresh 2) rfl .recursive
  exact ⟨rfl, visited, attempt, solved, answer, by rw [same]; exact found⟩

end LogPiles
