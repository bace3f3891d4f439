import LogPiles.Proofs.Flow
import LogPiles.Proofs.Placement
import LogPiles.Proofs.Solution

/-!
# The lairs that can be reached

A lair comes into being in three ways: it is built, or an attempt to solve one
has left it behind, or an observer has been shown it during such an attempt.
`Lair.Reached` closes these under repetition, so that a lair shown half-way
through an attempt may be solved in its turn before another observer, and so on.

Every reached lair is `Lair.Sound`.  One legal move keeps a sound lair sound
(`Lair.Sound.shift`), so whatever is shown or left behind by a failed attempt is
sound (`Lair.Sound.calls`, `Lair.Sound.attempt`).  That a lair is marked as
solved only with all its logs in the hideout is another matter, since an attempt
makes the same hops whatever the piles hold.  Here the flow of the script
decides: it can be followed to its end only from the start.
-/

namespace LogPiles

namespace Lair

/-- What holds of every lair that can be reached. -/
structure Sound (lair : Lair) : Prop where
  within : lair.size ≤ sizeLimit
  /-- Every log lies somewhere, once. -/
  conserved : lair.position.logs.Perm (logsUpTo lair.size)
  /-- No log lies on a smaller one. -/
  ascending : ∀ site, (lair.pile site).logs.Pairwise (· < ·)
  site : ∀ site, (lair.pile site).site = site
  capacity : ∀ site, (lair.pile site).capacity = lair.size
  /-- Only a lair with all its logs in the hideout is marked as solved. -/
  of_solved : lair.solved = true →
    lair.position = ⟨[], [], logsUpTo lair.size⟩ ∧ lair.moves = 2 ^ lair.size - 1
  of_unsolved : lair.solved = false → lair.moves = 0

/-- The lairs that can be reached, whoever watches and whichever attempts fail. -/
inductive Reached : Lair → Prop where
  | fresh {size : Nat} {lair : Lair} (built : ofNat size = .ok lair) : Reached lair
  | signed {size : Int} {lair : Lair} (built : ofInt size = .ok lair) : Reached lair
  /-- What an attempt leaves, whether it came to its end or not. -/
  | attempt {σ : Type} {lair : Lair} (earlier : Reached lair) (strategy : Strategy)
      (watch : Observer σ) (seen : σ) {attempt : Attempt σ}
      (made : lair.solve strategy watch seen = .ok attempt) : Reached attempt.lair
  /-- What an observer is shown, also in an attempt that gives nothing back. -/
  | shown {σ : Type} {lair shown : Lair} (earlier : Reached lair) (strategy : Strategy)
      (watch : Observer σ) (seen : σ) {move : Move}
      (told : (move, shown) ∈ (lair.transcript strategy watch seen).calls) : Reached shown

theorem sound_fresh {size : Nat} (within : size ≤ sizeLimit) : (Lair.fresh size).Sound where
  within := within
  conserved := by
    rw [position_fresh, ← Placement.piles_forest]
    exact Placement.logs_piles_perm size _
  ascending := by
    intro site
    rw [← get_position, position_fresh, ← Placement.piles_forest]
    exact Placement.ascending_get_piles size _ site
  site := by
    intro site
    cases site <;> rfl
  capacity := by
    intro site
    cases site <;> rfl
  of_solved := fun solved => by cases solved
  of_unsolved := fun _ => rfl

namespace Sound

variable {σ : Type} {lair : Lair} {hop : Hop} {strategy : Strategy} {watch : Observer σ} {seen : σ}

/-- The position of a sound lair is that of a placement. -/
theorem exists_placement (sound : lair.Sound) :
    ∃ place : Placement, lair.position = place.piles lair.size := by
  apply Placement.exists_eq_piles sound.conserved
  intro site
  rw [get_position]
  exact sound.ascending site

/-- Other logs on the piles of an unsolved lair, if they are those of a placement. -/
theorem arrange (sound : lair.Sound) (unsolved : lair.solved = false) (place : Placement) :
    (lair.arrange (place.piles lair.size)).Sound where
  within := sound.within
  conserved := Placement.logs_piles_perm lair.size place
  ascending := by
    intro site
    rw [pile_arrange]
    exact Placement.ascending_get_piles lair.size place site
  site := by
    intro site
    rw [pile_arrange]
    exact sound.site site
  capacity := by
    intro site
    rw [pile_arrange]
    exact sound.capacity site
  of_solved := by
    intro solved
    rw [solved_arrange, unsolved] at solved
    cases solved
  of_unsolved := sound.of_unsolved

/-- A legal move keeps an unsolved lair sound. -/
theorem shift (sound : lair.Sound) (unsolved : lair.solved = false)
    (legal : lair.position.canHop hop = true) :
    (lair.arrange (lair.position.carry hop)).Sound := by
  obtain ⟨place, placed⟩ := sound.exists_placement
  rw [placed] at legal ⊢
  obtain ⟨log, here, rule⟩ := Placement.canHop_piles.1 legal
  rw [Placement.carry_piles here rule]
  exact sound.arrange unsolved _

/-- Every lair that an observer is shown is sound and not solved yet. -/
theorem calls (sound : lair.Sound) :
    ∀ call ∈ (lair.transcript strategy watch seen).calls, call.2.Sound := by
  cases solved : lair.solved with
  | true =>
      rw [transcript_of_solved solved]
      intro call inside
      cases inside
  | false =>
      have story := chronicle_transcript strategy watch seen lair
      have kept := story.induction (fun lair => lair.Sound ∧ lair.solved = false) ?_
        ⟨sound, solved⟩
      · intro call inside
        exact (kept call inside).1
      · rintro lair hop ⟨sound, unsolved⟩ legal
        exact ⟨sound.shift unsolved legal, unsolved⟩

/-- Only the lair with all its logs in the forest allows the script. -/
theorem position_of_path (sound : lair.Sound) {final : Piles}
    (path : lair.position.follow? (script lair.size) = some final) :
    lair.position = Piles.start lair.size ∧ final = ⟨[], [], logsUpTo lair.size⟩ := by
  obtain ⟨place, placed⟩ := sound.exists_placement
  have enough := Piles.length_forest_of_script path
  have no_more : lair.position.forest.length ≤ lair.size := by
    rw [placed, Placement.piles]
    exact (List.length_filter_le ..).trans_eq (length_logsUpTo _)
  have full : ((place.piles lair.size).get .forest).length = lair.size := by
    rw [← placed]
    exact Nat.le_antisymm no_more (by rw [PerSite.get]; omega)
  have start : lair.position = Piles.start lair.size := by
    rw [placed, (Placement.gathered_of_length full).piles_eq, Placement.piles_forest]
  rw [start, Piles.follow?_script] at path
  exact ⟨start, (Option.some.inj path).symm⟩

/-- With all its logs in the hideout a lair may be marked as solved. -/
theorem mark (sound : lair.Sound) (goal : lair.position = ⟨[], [], logsUpTo lair.size⟩) :
    Sound { lair with moves := leastMoves lair.size, solved := true } where
  within := sound.within
  conserved := sound.conserved
  ascending := sound.ascending
  site := sound.site
  capacity := sound.capacity
  of_solved := fun _ => ⟨goal, leastMoves_eq lair.size⟩
  of_unsolved := fun unsolved => by cases unsolved

/-- A run leaves a sound lair that is not marked as solved, also where it was stopped. -/
theorem run {hops : List Hop} {run : Run σ} (apart : Apart hops) (sound : run.lair.Sound)
    (unsolved : run.lair.solved = false) :
    (Run.left (run.follow watch hops)).lair.Sound ∧
      (Run.left (run.follow watch hops)).lair.solved = false := by
  refine Run.follow_induction (fun run => run.lair.Sound ∧ run.lair.solved = false) apart ?_
    ⟨sound, unsolved⟩
  rintro run next hop first ⟨sound, unsolved⟩ moved
  obtain ⟨log, legal, -, shifted, -⟩ := (Run.move_eq_ok_iff first).1 moved
  rw [shifted]
  exact ⟨sound.shift unsolved legal, unsolved⟩

/-- An attempt leaves a sound lair, however it ends. -/
theorem attempt (sound : lair.Sound) {attempt : Attempt σ}
    (made : lair.solve strategy watch seen = .ok attempt) : attempt.lair.Sound := by
  cases solved : lair.solved with
  | true =>
      rw [solve_of_solved solved] at made
      cases made
      exact sound
  | false =>
      have kept := @run _ watch _ ⟨lair, seen, 0⟩ (apart_script lair.size) sound solved
      rw [solve_of_unsolved solved] at made
      cases followed : Run.follow watch (script lair.size) ⟨lair, seen, 0⟩ with
      | error stop =>
          rw [followed] at made kept
          obtain ⟨error | breach, run⟩ := stop
          · cases made
            exact kept.1
          · cases made
      | ok next =>
          rw [followed] at made kept
          obtain ⟨path, shifted, -⟩ := Run.follow?_of_follow (apart_script lair.size) followed
          have size : next.lair.size = lair.size := by rw [shifted, size_arrange]
          -- the script came to its end, so it was followed from the start
          have goal := (sound.position_of_path path).2
          rw [← size] at goal
          obtain ⟨-, least, rfl⟩ := Run.finish_eq_ok made
          rw [least]
          exact kept.1.mark goal

/-- With nothing on the other two sites all logs are in the forest. -/
theorem position_eq_start (sound : lair.Sound) (base : (lair.pile .base).logs = [])
    (hideout : (lair.pile .hideout).logs = []) : lair.position = Piles.start lair.size := by
  obtain ⟨place, placed⟩ := sound.exists_placement
  rw [← get_position, placed] at base hideout
  have gathered : place.Gathered lair.size .forest := by
    intro log known
    cases here : place log with
    | forest => rfl
    | base => exact absurd (Placement.mem_get_piles.2 ⟨known, here⟩) (by simp [base])
    | hideout => exact absurd (Placement.mem_get_piles.2 ⟨known, here⟩) (by simp [hideout])
  rw [placed, gathered.piles_eq, Placement.piles_forest]

/-- An unsolved lair with all its logs in the forest is solved. -/
theorem solve_of_start (sound : lair.Sound) (unsolved : lair.solved = false)
    (start : lair.position = Piles.start lair.size)
    (quiet : (lair.transcript strategy watch seen).refusal = none) :
    ∃ attempt count, lair.solve strategy watch seen = .ok attempt ∧
      attempt.answer = .ok count := by
  have path : lair.position.follow? (script lair.size) = some ⟨[], [], logsUpTo lair.size⟩ :=
    start ▸ Piles.follow?_script lair.size
  have solved := solve_of_path unsolved sound.within path (Piles.count_hideout lair.size) quiet
  exact ⟨_, _, solved.1, rfl⟩

/-- An unsolved lair with a log elsewhere is not solved and stays unmarked. -/
theorem solve_of_elsewhere (sound : lair.Sound) (unsolved : lair.solved = false)
    (elsewhere : ¬ ((lair.pile .base).logs = [] ∧ (lair.pile .hideout).logs = []))
    (quiet : (lair.transcript strategy watch seen).refusal = none) :
    (∃ site attempt, lair.solve strategy watch seen = .ok attempt ∧
        attempt.answer = .error (.emptyPile site) ∧ attempt.lair.solved = false) ∨
      ∃ log, lair.solve strategy watch seen = .error (.smallerBelow log) := by
  have blocked : lair.position.follow? (script lair.size) = none := by
    cases path : lair.position.follow? (script lair.size) with
    | none => rfl
    | some final =>
        refine absurd ?_ elsewhere
        rw [← get_position, ← get_position, (sound.position_of_path path).1]
        exact ⟨rfl, rfl⟩
  obtain ⟨site, position, failed⟩ | breached := solve_of_blocked unsolved sound.within blocked quiet
  · exact .inl ⟨site, _, failed, rfl, unsolved⟩
  · exact .inr breached

/-- An attempt succeeds exactly on an unsolved lair with all its logs in the forest. -/
theorem solved_iff (sound : lair.Sound)
    (quiet : (lair.transcript strategy watch seen).refusal = none) :
    (∃ attempt count, lair.solve strategy watch seen = .ok attempt ∧
        attempt.answer = .ok count) ↔
      lair.solved = false ∧ (lair.pile .base).logs = [] ∧ (lair.pile .hideout).logs = [] := by
  constructor
  · rintro ⟨attempt, count, made, answer⟩
    cases solved : lair.solved with
    | true =>
        rw [solve_of_solved solved] at made
        cases made
        cases answer
    | false =>
        refine ⟨rfl, ?_⟩
        by_contra elsewhere
        obtain ⟨site, other, failed, error, -⟩ | ⟨log, failed⟩ :=
          sound.solve_of_elsewhere solved elsewhere quiet
        · rw [failed] at made
          cases made
          rw [error] at answer
          cases answer
        · rw [failed] at made
          cases made
  · rintro ⟨unsolved, base, hideout⟩
    exact sound.solve_of_start unsolved (sound.position_eq_start base hideout) quiet

end Sound

/-- Every lair that can be reached is sound. -/
theorem Reached.sound {lair : Lair} (reached : lair.Reached) : lair.Sound := by
  induction reached with
  | fresh built =>
      obtain ⟨within, rfl⟩ := ofNat_eq_ok_iff.1 built
      exact sound_fresh within
  | signed built =>
      obtain ⟨positive, within, rfl⟩ := ofInt_eq_ok_iff.1 built
      exact sound_fresh (by omega)
  | attempt _ _ _ _ made sound => exact sound.attempt made
  | shown _ _ _ _ told sound => exact sound.calls _ told

end Lair

/-- Whatever attempts were made, before whichever observers: the piles of a lair hold every log
once and in order, and a lair marked as solved has them all in the hideout.  An attempt to
solve it succeeds exactly when it is unsolved and has all its logs in the forest.  From any
other position an attempt fails and leaves the lair unmarked, and a solved lair is not touched. -/
theorem reached_lair_sound {lair : Lair} (reached : lair.Reached) :
    (lair.position.logs.Perm (logsUpTo lair.size) ∧
      (∀ site, (lair.pile site).logs.Pairwise (· < ·) ∧
        (lair.pile site).capacity = lair.size ∧ (lair.pile site).site = site) ∧
      (lair.solved = true →
        lair.position = ⟨[], [], logsUpTo lair.size⟩ ∧ lair.moves = 2 ^ lair.size - 1) ∧
      (lair.solved = false → lair.moves = 0)) ∧
    ∀ {σ : Type} (strategy : Strategy) (watch : Observer σ) (seen : σ),
      ((lair.transcript strategy watch seen).refusal = none →
        ((∃ attempt count, lair.solve strategy watch seen = .ok attempt ∧
            attempt.answer = .ok count) ↔
          lair.solved = false ∧ (lair.pile .base).logs = [] ∧ (lair.pile .hideout).logs = []) ∧
        (lair.solved = false → ¬ ((lair.pile .base).logs = [] ∧ (lair.pile .hideout).logs = []) →
          (∃ site attempt, lair.solve strategy watch seen = .ok attempt ∧
              attempt.answer = .error (.emptyPile site) ∧ attempt.lair.solved = false) ∨
            ∃ log, lair.solve strategy watch seen = .error (.smallerBelow log))) ∧
      (lair.solved = true →
        lair.solve strategy watch seen = .ok ⟨.error .alreadySolved, lair, seen⟩ ∧
          (lair.transcript strategy watch seen).calls = []) := by
  have sound := reached.sound
  refine ⟨⟨sound.conserved, ?_, sound.of_solved, sound.of_unsolved⟩, ?_⟩
  · intro site
    exact ⟨sound.ascending site, sound.capacity site, sound.site site⟩
  intro σ strategy watch seen
  constructor
  · intro quiet
    refine ⟨sound.solved_iff quiet, ?_⟩
    intro unsolved elsewhere
    exact sound.solve_of_elsewhere unsolved elsewhere quiet
  · intro solved
    rw [Lair.transcript_of_solved solved]
    exact ⟨Lair.solve_of_solved solved strategy watch seen, rfl⟩

/-- Two logs, after the first move of a solution: an attempt to solve the lair from there fails. -/
theorem reached_lair_sound_halfway :
    ((Lair.fresh 2).arrange ⟨[2], [1], []⟩).Reached ∧
      ((∃ site attempt,
          ((Lair.fresh 2).arrange ⟨[2], [1], []⟩).solve .recursive Observer.silent () =
            .ok attempt ∧
          attempt.answer = .error (.emptyPile site) ∧ attempt.lair.solved = false) ∨
        ∃ log, ((Lair.fresh 2).arrange ⟨[2], [1], []⟩).solve .recursive Observer.silent () =
          .error (.smallerBelow log)) := by
  have built : Lair.ofNat 2 = .ok (Lair.fresh 2) := rfl
  have told : ((⟨1, 1, .forest, .base⟩ : Move), (Lair.fresh 2).arrange ⟨[2], [1], []⟩) ∈
      ((Lair.fresh 2).transcript .recursive Observer.silent ()).calls := by decide
  have reached := (Lair.Reached.fresh built).shown .recursive Observer.silent () told
  have quiet := Lair.refusal_transcript_of_total Observer.total_silent .recursive ()
    ((Lair.fresh 2).arrange ⟨[2], [1], []⟩)
  have attempts := (reached_lair_sound reached).2 .recursive Observer.silent ()
  exact ⟨reached, (attempts.1 quiet).2 rfl (by decide)⟩

end LogPiles
