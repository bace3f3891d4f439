import LogPiles.Proofs.CheckCommand

/-!
# What the heading over a walk says

The last section of a check is headed by the size, a number of moves and the
seed.  The number is the one that was asked for, which is not looked at again when
the walk has been taken.  A stretch adds as many moves to the history as it counts
(`Walk.length_history_of_advanceFrom`), and it makes all its steps if there is a
log to be moved, so the number is right for every lair but one.  In the lair
without logs no move is made, and the heading still names the number asked for.

Since numbers differ where their digits do, two headings are the same text only
for the same number (`CommandLine.walkHeading_injective`), and this tells exactly
when the heading is right.
-/

namespace LogPiles

open Chance CommandLine Text

namespace Walk

/-- A step adds to the history the move that it makes. -/
theorem Step.toList_history {walk next : Walk} {move? : Option Move}
    (stepped : walk.Step move? next) :
    next.history.toList = walk.history.toList ++ move?.toList := by
  cases stepped with
  | rest => exact (List.append_nil _).symm
  | legal => exact moves_moved ..
  | fault => exact moves_moved ..

variable {σ : Type} [Decisions σ] [FairDecisions σ] {source left : σ} {walk next : Walk}
  {size taken steps count : Nat}

/-- A stretch adds as many moves to the history as to those already taken. -/
theorem length_history_of_advanceFrom
    (advanced : walk.advanceFrom taken steps source = .ok (count, next, left)) :
    next.history.length + taken = walk.history.length + count := by
  induction steps generalizing walk source taken with
  | zero =>
      cases advanced
      rfl
  | succ steps inductionHypothesis =>
      rw [advanceFrom] at advanced
      cases stepped : walk.step source with
      | error breach =>
          rw [stepped] at advanced
          cases advanced
      | ok outcome =>
          obtain ⟨move?, middle, after⟩ := outcome
          rw [stepped] at advanced
          have added := congrArg List.length (step_sound stepped).toList_history
          rw [List.length_append, History.length_toList, History.length_toList] at added
          cases move? with
          | none =>
              cases advanced
              rw [added]
              rfl
          | some move =>
              have rest := inductionHypothesis advanced
              rw [added, Option.toList_some, List.length_singleton] at rest
              omega

/-- A walk makes as many moves as it was asked for, unless there is no log to be moved. -/
theorem length_history_of_run (ran : run size steps source = .ok (walk, left)) :
    walk.history.length = if size = 0 then 0 else steps := by
  obtain ⟨⟨count, walk, after⟩, advanced, ended⟩ := bind_eq_ok_iff.1 ran
  cases ended
  rw [← Led.start.count_eq advanced]
  exact (length_history_of_advanceFrom advanced).trans (Nat.zero_add count)

end Walk

/-- Headings of the same size and seed differ where their numbers of moves do. -/
theorem CommandLine.walkHeading_injective {size steps steps' : Nat} {seed : UInt64}
    (same : walkHeading size steps seed = walkHeading size steps' seed) : steps = steps' := by
  have digits : toString steps = toString steps' := by
    unfold walkHeading at same
    simpa only [String.append_left_inj, String.append_right_inj] using same
  apply decimal_injective
  rw [← toList_toString, digits, toList_toString]

/-- The heading over a walk names the number of its moves exactly if there is a log, or no move was
asked for, whatever sources lead the walks.  What the check writes ends in the report on the walk
that was taken, under a heading with the number of moves that was asked for; the walk has made that
number if there is a log, and none otherwise. -/
theorem walk_heading_exact (σ : Type) [Decisions σ] [FairDecisions σ] [Metered σ]
    [MeteredDecisions σ] [Seeded σ] [FreshlySeeded σ] {size steps : Nat} {option? : Option UInt64}
    {environment? : Option String} (small : size ≤ 24) (short : steps < 10 ^ 9)
    (valid : option? = none → ∀ raw, environment? = some raw → ∃ seed, Seed.parse raw = .ok seed)
    (drawn : UInt64) :
    ∃ (seed : UInt64) (recursive iterative : Section) (source : σ) (walk : Walk) (left : σ)
        (report : Report),
      checkSeed option? environment? drawn = .ok seed ∧
      solvedSection size .recursive = .ok recursive ∧
      solvedSection size .iterative = .ok iterative ∧
      Seeded.ofSeed seed = .ok source ∧
      Walk.run size steps source = .ok (walk, left) ∧
      walk.account.check { seed? := some seed } = .ok report ∧
      ((Command.check size option? steps).outcomeBy σ environment? drawn).output =
        recursive.text ++ iterative.text ++
          (⟨s!"Random walk ({size} logs, {steps} moves, DST_SEED={seed}):", report⟩ :
            Section).text ∧
      walk.history.length = (if size = 0 then 0 else steps) ∧
      (s!"Random walk ({size} logs, {steps} moves, DST_SEED={seed}):" =
          s!"Random walk ({size} logs, {walk.history.length} moves, DST_SEED={seed}):" ↔
        0 < size ∨ steps = 0) := by
  have within : size ≤ sizeLimit := small.trans (by decide)
  obtain ⟨seed, chosen⟩ := exists_checkSeed valid drawn
  obtain ⟨recursive, first, clean₁⟩ := exists_solvedSection within .recursive
  obtain ⟨iterative, second, clean₂⟩ := exists_solvedSection within .iterative
  obtain ⟨source, walk, left, report, seeded, ran, checked, clean₃, third⟩ :=
    exists_walk_checked σ within short (checkSeed_ne_zero chosen)
  have outcome := outcome_of_clean small chosen first.made clean₁ second.made clean₂ third clean₃
  have made := Walk.length_history_of_run ran
  refine ⟨seed, recursive, iterative, source, walk, left, report, chosen, first.made, second.made,
    seeded, ran, checked, by rw [outcome]; rfl, made, ?_⟩
  show walkHeading size steps seed = walkHeading size walk.history.length seed ↔ _
  constructor
  · intro same
    have right := (walkHeading_injective same).trans made
    split at right
    · exact .inr right
    · next some => exact .inl (Nat.pos_of_ne_zero some)
  · rintro (some | rfl)
    · rw [made, if_neg (Nat.ne_of_gt some)]
    · rw [made, ite_self]

/-- Two logs, three moves, and a seed between blanks: the heading is right. -/
theorem walk_heading_exact_two :
    (2 ≤ 24 ∧ 3 < 10 ^ 9 ∧ ∃ seed, Seed.parse " 7\n" = .ok seed) ∧
      ∃ generator walk left, Generator.ofSeed 7 = .ok generator ∧
        Walk.run 2 3 generator = .ok (walk, left) ∧ walk.history.length = 3 ∧
        "Random walk (2 logs, 3 moves, DST_SEED=7):" = walkHeading 2 walk.history.length 7 := by
  have parsed : Seed.parse " 7\n" = .ok 7 := by decide
  have valid : (none : Option UInt64) = none → ∀ raw, some " 7\n" = some raw →
      ∃ seed, Seed.parse raw = .ok seed := by
    rintro - raw same
    cases same
    exact ⟨7, parsed⟩
  obtain ⟨seed, _, _, generator, walk, left, _, chosen, -, -, seeded, ran, -, -, made, exact⟩ :=
    walk_heading_exact Generator (by decide : 2 ≤ 24) (by decide : 3 < 10 ^ 9) valid 0
  obtain rfl : seed = 7 := Except.ok.inj (chosen.symm.trans parsed)
  exact ⟨⟨by decide, by decide, 7, parsed⟩, generator, walk, left, seeded, ran, made,
    exact.2 (.inl (by decide))⟩

/-- No log and three moves: the heading names three moves, and the walk has made none. -/
theorem walk_heading_without_logs :
    ∃ before generator walk left report,
      Generator.ofSeed 7 = .ok generator ∧ Walk.run 0 3 generator = .ok (walk, left) ∧
      walk.account.check { seed? := some 7 } = .ok report ∧
      ((Command.check 0 (some 7) 3).outcome none 0).output =
        before ++ (⟨"Random walk (0 logs, 3 moves, DST_SEED=7):", report⟩ : Section).text ∧
      walk.history.length = 0 := by
  have chosen : checkSeed (some 7) none 0 = .ok 7 := by decide
  obtain ⟨recursive, first, clean₁⟩ := exists_solvedSection (Nat.zero_le sizeLimit) .recursive
  obtain ⟨iterative, second, clean₂⟩ := exists_solvedSection (Nat.zero_le sizeLimit) .iterative
  obtain ⟨generator, walk, left, report, seeded, ran, checked, clean₃, third⟩ :=
    exists_walk_checked Generator (Nat.zero_le sizeLimit) (by decide : 3 < Generator.callLimit)
      (by decide : (7 : UInt64) ≠ 0)
  have outcome :=
    outcome_of_clean (by decide) chosen first.made clean₁ second.made clean₂ third clean₃
  exact ⟨recursive.text ++ iterative.text, generator, walk, left, report, seeded, ran, checked,
    congrArg Outcome.output outcome, Walk.length_history_of_run ran⟩

end LogPiles
