import Mathlib.Algebra.Ring.Nat
import LogPiles.Proofs.Transfer

/-!
# When an attempt succeeds

Whether a lair can be solved is a question about its position alone: does the
rule of the game allow the script of its size?  If it does, the attempt comes to
its end and both final checks pass (`Lair.solve_of_path`).  If it does not, the
attempt ends at a pile without logs or at a log that does not fit, and never in
another way (`Lair.solve_of_blocked`).  The only thing asked of the observer is
that it refuses none of the moves it is told.

`solve_fresh_optimal` puts this together with the path of `Piles.follow?_script`:
a lair as it is built is solved, in the least number of moves, up to and
including the largest size.
-/

namespace LogPiles

variable {σ : Type}

theorem leastMoves_eq (size : Nat) : leastMoves size = 2 ^ size - 1 := rfl

/-- A run with the right number of moves and of logs passes both final checks. -/
theorem Run.finish_of_complete {run : Run σ} (within : run.lair.size ≤ sizeLimit)
    (done : run.done = leastMoves run.lair.size) (kept : run.lair.count = run.lair.size) :
    run.finish =
      .ok ⟨.ok run.done, { run.lair with moves := run.done, solved := true }, run.seen⟩ := by
  unfold finish
  rw [optimalMoves_of_le within]
  simp [done, kept]

/-- A run that passes the final checks has made the least number of moves and is marked so. -/
theorem Run.finish_eq_ok {run : Run σ} {attempt : Attempt σ} (finished : run.finish = .ok attempt) :
    run.lair.size ≤ sizeLimit ∧ run.done = leastMoves run.lair.size ∧
      attempt = ⟨.ok run.done, { run.lair with moves := run.done, solved := true }, run.seen⟩ := by
  unfold finish at finished
  by_cases within : run.lair.size ≤ sizeLimit
  · rw [optimalMoves_of_le within] at finished
    by_cases least : run.done = leastMoves run.lair.size
    · refine ⟨within, least, ?_⟩
      by_cases kept : run.lair.count = run.lair.size
      · simpa [least, kept, eq_comm] using finished
      · simp [least, kept] at finished
    · simp [least] at finished
  · rw [optimalMoves_of_lt (Nat.lt_of_not_le within)] at finished
    cases finished

namespace Lair

/-- The hops of every attempt to solve a lair of this size. -/
abbrev script (size : Nat) : List Hop := itinerary .forest .hideout .base size

theorem length_script_lt {size : Nat} (within : size ≤ sizeLimit) :
    0 + (script size).length < moveLimit := by
  rw [length_itinerary, Nat.zero_add]
  exact leastMoves_lt within

variable {lair : Lair} {strategy : Strategy} {watch : Observer σ} {seen : σ}

/-- A lair whose position allows the script is solved in the least number of moves. -/
theorem solve_of_path (unsolved : lair.solved = false) (within : lair.size ≤ sizeLimit)
    {final : Piles} (path : lair.position.follow? (script lair.size) = some final)
    (kept : final.count = lair.size)
    (quiet : (lair.transcript strategy watch seen).refusal = none) :
    lair.solve strategy watch seen =
        .ok ⟨.ok (leastMoves lair.size),
          { lair.arrange final with moves := leastMoves lair.size, solved := true },
          (lair.transcript strategy watch seen).seen⟩ ∧
      (lair.transcript strategy watch seen).moves.map Move.hop = script lair.size := by
  obtain ⟨transcript, followed⟩ := @Run.follow_of_follow? _ _ _ ⟨lair, .blank seen, 0⟩
    watch.total_transcribed final path (length_script_lt within)
  rw [length_itinerary, Nat.zero_add] at followed
  have told : lair.transcript strategy watch seen = transcript := by
    rw [transcript_of_unsolved unsolved, followed, Run.left_ok]
  have finished := @Run.finish_of_complete _
    ⟨lair.arrange final, transcript, leastMoves lair.size⟩ within rfl kept
  constructor
  · rw [solve_eq_of_transcript, quiet, solve_of_unsolved unsolved, followed, Run.conclude,
      finished, told]
    rfl
  · rw [told] at quiet ⊢
    exact Run.hops_of_follow (apart_script lair.size) followed quiet

/-- A lair whose position does not allow the script stays unsolved: the attempt ends at a pile
without logs or at a log that does not fit. -/
theorem solve_of_blocked (unsolved : lair.solved = false) (within : lair.size ≤ sizeLimit)
    (blocked : lair.position.follow? (script lair.size) = none)
    (quiet : (lair.transcript strategy watch seen).refusal = none) :
    (∃ site position, lair.solve strategy watch seen =
        .ok ⟨.error (.emptyPile site), lair.arrange position,
          (lair.transcript strategy watch seen).seen⟩) ∨
      ∃ log, lair.solve strategy watch seen = .error (.smallerBelow log) := by
  rw [solve_eq_of_transcript, quiet, solve_of_unsolved unsolved, transcript_of_unsolved unsolved]
  cases followed : Run.follow watch.transcribed (script lair.size) ⟨lair, .blank seen, 0⟩ with
  | ok next =>
      have path := (Run.follow?_of_follow (apart_script lair.size) followed).1
      rw [blocked] at path
      cases path
  | error stop =>
      obtain ⟨position, same⟩ := Run.exists_arrange_left watch.transcribed
        (apart_script lair.size) ⟨lair, .blank seen, 0⟩
      rw [followed, Run.left_error] at same
      obtain ⟨cause, run⟩ := stop
      obtain ⟨site, empty⟩ | ⟨log, small⟩ := Run.follow_eq_error watch.total_transcribed
        (apart_script lair.size) (length_script_lt within) followed
      · subst empty
        exact .inl ⟨site, position, by rw [← same]; rfl⟩
      · subst small
        exact .inr ⟨log, rfl⟩

/-- A lair as it is built is solved by its script. -/
theorem solve_fresh {size : Nat} (within : size ≤ sizeLimit)
    (quiet : ((fresh size).transcript strategy watch seen).refusal = none) :
    (fresh size).solve strategy watch seen =
        .ok ⟨.ok (leastMoves size),
          ⟨size, ⟨.empty .forest size, .empty .base size, .full .hideout size⟩, leastMoves size,
            true⟩,
          ((fresh size).transcript strategy watch seen).seen⟩ ∧
      ((fresh size).transcript strategy watch seen).moves.map Move.hop = script size := by
  have path : (fresh size).position.follow? (script size) = some ⟨[], [], logsUpTo size⟩ :=
    Piles.follow?_script size
  exact solve_of_path rfl within path (Piles.count_hideout size) quiet

end Lair

/-- A lair as it is built is solved in the least number of moves.  No move finds its pile empty or
its target occupied by a smaller log, every move has a number, and the final checks pass; in
the end all logs are in the hideout. -/
theorem solve_fresh_optimal {size : Nat} {lair : Lair} (built : Lair.ofNat size = .ok lair)
    (strategy : Strategy) (watch : Observer σ) (seen : σ)
    (quiet : (lair.transcript strategy watch seen).refusal = none) :
    lair.solve strategy watch seen =
        .ok ⟨.ok (2 ^ size - 1),
          ⟨size, ⟨.empty .forest size, .empty .base size, .full .hideout size⟩, 2 ^ size - 1, true⟩,
          (lair.transcript strategy watch seen).seen⟩ ∧
      (lair.transcript strategy watch seen).calls.length = 2 ^ size - 1 ∧
      lair.Chronicle 0 (lair.transcript strategy watch seen).calls := by
  obtain ⟨within, rfl⟩ := Lair.ofNat_eq_ok_iff.1 built
  obtain ⟨solved, hops⟩ := Lair.solve_fresh within quiet
  refine ⟨solved, ?_, Lair.chronicle_transcript strategy watch seen _⟩
  have counted := congrArg List.length hops
  rwa [Transcript.moves, List.map_map, List.length_map, length_itinerary] at counted

/-- Three logs, and the observer that keeps a history and insists on its numbering. -/
theorem solve_fresh_optimal_three :
    Lair.ofNat 3 = .ok (Lair.fresh 3) ∧
      ((Lair.fresh 3).transcript .recursive Observer.record History.empty).refusal = none ∧
      (Lair.fresh 3).solve .recursive Observer.record History.empty =
        .ok ⟨.ok (2 ^ 3 - 1),
          ⟨3, ⟨.empty .forest 3, .empty .base 3, .full .hideout 3⟩, 2 ^ 3 - 1, true⟩,
          ((Lair.fresh 3).transcript .recursive Observer.record History.empty).seen⟩ :=
  ⟨rfl, by decide, (solve_fresh_optimal rfl .recursive Observer.record History.empty (by decide)).1⟩

end LogPiles
