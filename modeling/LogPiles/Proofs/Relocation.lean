import LogPiles.Proofs.Solution

/-!
# Transfers in the middle of a game

A transfer may start anywhere: between any three sites, with any number of moves
behind it, on top of whatever the sites hold.  All that it needs is that the stack
ascends and that its largest log, which is the only one to touch anything else,
fits on the three sites as they are without the stack
(`Piles.movable_of_largest`).

The moves are then those of `Piles.follow?_itinerary`.  What is left to be said is
that a run makes them: the last of them still has a number, and it is the
observer alone that could end the run.
-/

namespace LogPiles

variable {σ : Type}

/-- No log of an ascending stack is larger than its last one. -/
theorem exists_largest {stack : List Log} (ascending : stack.Pairwise (· < ·)) {log : Log}
    (inside : log ∈ stack) : ∃ largest ∈ stack.getLast?, log ≤ largest := by
  cases stack using List.reverseRecOn with
  | nil => cases inside
  | append_singleton small large _ =>
      refine ⟨large, by simp, ?_⟩
      rw [List.mem_append, List.mem_singleton] at inside
      obtain smaller | rfl := inside
      · have less := (List.pairwise_append.1 ascending).2.2 log smaller large
          (List.mem_singleton_self large)
        exact Nat.le_of_lt less
      · exact Nat.le_refl log

namespace Piles

/-- A stack may be moved if it ascends and its largest log fits wherever the stack may come to
lie. -/
theorem movable_of_largest {piles : Piles} {source : Site} {stack rest : List Log}
    (held : piles.get source = stack ++ rest) (ascending : stack.Pairwise (· < ·))
    (under : ∀ largest ∈ stack.getLast?, ∀ below ∈ rest.head?, largest < below)
    (beside : ∀ largest ∈ stack.getLast?, ∀ site, site ≠ source →
      ∀ top ∈ piles.top? site, largest < top) :
    piles.Movable source stack rest where
  held := held
  ascending := ascending
  fits := by
    intro log inside site below top
    obtain ⟨largest, last, le⟩ := exists_largest ascending inside
    refine Nat.lt_of_le_of_lt le ?_
    by_cases same : site = source
    · subst same
      rw [PerSite.get_set_self] at top
      exact under largest last below top
    · rw [PerSite.get_set_ne _ _ same] at top
      exact beside largest last site same below top

end Piles

/-- A run makes the moves of a transfer where the rule of the game allows them, the last of them has
a number and the observer refuses none. -/
theorem transfer_of_path {lair : Lair} {source target spare : Site} {count done : Nat}
    {final : Piles} (roles : Site.Roles source target spare)
    (path : lair.position.follow? (itinerary source target spare count) = some final)
    (room : done + leastMoves count < moveLimit) {watch : Observer σ} {seen : σ}
    (quiet : (Run.left (transfer watch.transcribed source target spare count
      ⟨lair, .blank seen, done⟩)).seen.refusal = none) :
    ∃ seen', transfer watch source target spare count ⟨lair, seen, done⟩ =
      .ok ⟨lair.arrange final, seen', done + leastMoves count⟩ := by
  rw [transfer_eq_follow] at quiet ⊢
  obtain ⟨transcript, followed⟩ := @Run.follow_of_follow? _ _ _ ⟨lair, .blank seen, done⟩
    watch.total_transcribed final path (by rwa [length_itinerary])
  have told := @Run.follow_transcribed _ _ ⟨lair, .blank seen, done⟩ watch
    (apart_itinerary roles count) rfl
  rw [quiet, followed, length_itinerary] at told
  exact ⟨transcript.seen, told⟩

/-- Between any three sites, with any lair and after any number of moves.  A transfer of an
ascending stack whose largest log fits on all three sites succeeds: no move finds its pile empty or
its log too large, and every move has a number.  It makes the least number of moves for so many
logs.  In the end the stack lies on the target as it lay on the source, and nothing else has
changed. -/
theorem transfer_moves_stack {lair : Lair} {source target spare : Site} {stack rest : List Log}
    {done : Nat} (roles : Site.Roles source target spare)
    (held : (lair.pile source).logs = stack ++ rest) (ascending : stack.Pairwise (· < ·))
    (under : ∀ largest ∈ stack.getLast?, ∀ below ∈ rest.head?, largest < below)
    (beside : ∀ largest ∈ stack.getLast?, ∀ site, site ≠ source →
      ∀ top ∈ (lair.pile site).peek?, largest < top)
    (room : done + (2 ^ stack.length - 1) < 2 ^ 64) (watch : Observer σ) (seen : σ)
    (quiet : (Run.left (transfer watch.transcribed source target spare stack.length
      ⟨lair, .blank seen, done⟩)).seen.refusal = none) :
    ∃ next, transfer watch source target spare stack.length ⟨lair, seen, done⟩ = .ok next ∧
      next.done = done + (2 ^ stack.length - 1) ∧
      next.lair.pile source = { lair.pile source with logs := rest } ∧
      next.lair.pile target =
        { lair.pile target with logs := stack ++ (lair.pile target).logs } ∧
      next.lair.pile spare = lair.pile spare ∧
      next.lair.size = lair.size ∧ next.lair.moves = lair.moves ∧
      next.lair.solved = lair.solved := by
  have movable : lair.position.Movable source stack rest := by
    refine Piles.movable_of_largest ((lair.get_position source).trans held) ascending under ?_
    intro largest last site other top lies
    rw [Piles.top?, lair.get_position] at lies
    exact beside largest last site other top lies
  obtain ⟨seen', moved⟩ := transfer_of_path roles (Piles.follow?_itinerary roles movable) room quiet
  refine ⟨_, moved, rfl, ?_, ?_, ?_, rfl, rfl, rfl⟩
  · rw [Lair.pile_arrange, PerSite.get_modify_ne _ _ roles.source_ne_target, PerSite.get_set_self]
  · rw [Lair.pile_arrange, PerSite.get_modify_self,
      PerSite.get_set_ne _ _ roles.source_ne_target.symm, lair.get_position]
  · rw [Lair.pile_arrange, PerSite.get_modify_ne _ _ roles.target_ne_spare.symm,
      PerSite.get_set_ne _ _ roles.source_ne_spare.symm, lair.get_position]

/-- In the middle of a game of six logs, two of them are moved off a larger one and onto another.
Their last move has the largest number that there is. -/
theorem transfer_moves_stack_last_numbers :
    2 ^ 64 - 4 + (2 ^ [1, 2].length - 1) < 2 ^ 64 ∧
      ∃ next, transfer Observer.silent .base .forest .hideout [1, 2].length
          ⟨(Lair.fresh 6).arrange ⟨[5], [1, 2, 4], [3, 6]⟩, (), 2 ^ 64 - 4⟩ = .ok next ∧
        next.done = 2 ^ 64 - 1 ∧ next.lair.position = ⟨[1, 2, 5], [4], [3, 6]⟩ := by
  have roles : Site.Roles .base .forest .hideout := ⟨by decide, by decide, by decide⟩
  have room : 2 ^ 64 - 4 + (2 ^ [1, 2].length - 1) < 2 ^ 64 := by decide
  have under : ∀ largest ∈ [1, 2].getLast?, ∀ below ∈ [4].head?, largest < below := by decide
  have beside : ∀ largest ∈ [1, 2].getLast?, ∀ site, site ≠ Site.base →
      ∀ top ∈ (((Lair.fresh 6).arrange ⟨[5], [1, 2, 4], [3, 6]⟩).pile site).peek?,
        largest < top := by
    intro largest last site other
    cases site with
    | forest => revert largest; decide
    | base => exact absurd rfl other
    | hideout => revert largest; decide
  obtain ⟨next, moved, done, source, target, spare, -⟩ :=
    transfer_moves_stack roles rfl (by decide) under beside room Observer.silent () (by decide)
  refine ⟨room, next, moved, done, PerSite.ext_get fun site => ?_⟩
  rw [Lair.get_position]
  cases site with
  | forest => rw [target]; rfl
  | base => rw [source]; rfl
  | hideout => rw [spare]; rfl

end LogPiles
