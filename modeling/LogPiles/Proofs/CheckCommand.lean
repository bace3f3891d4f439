import LogPiles.CommandLine.Outcome
import LogPiles.Proofs.Progress

/-!
# What the check command reports

The command solves a lair in two ways, takes a walk, and checks all three.  None
of them can fail the check.  A solved lair has made the script, a walk of legal
moves has followed the game, and an account of either passes
(`Account.check_of_path`).  So the command can only stop early: at a size or a
seed that it refuses, or at a breach.

Of the breaches one is left to be ruled out, that a source is asked too often.  A
walk costs what its steps cost (`Walk.Led.advance_costs`), and where faults do not
happen that is one call a step.  So fewer steps than a source may be called are a
walk (`Walk.exists_run`), for every source that a seed starts without calls
(`FreshlySeeded`).
-/

namespace LogPiles

open Chance CommandLine

section Sources

variable {σ : Type} [Decisions σ] [FairDecisions σ] [Metered σ] [MeteredDecisions σ]

/-- Fewer steps than a source may be called are a walk. -/
theorem Walk.exists_run {steps : Nat} (short : steps < Generator.callLimit) (size : Nat)
    {source : σ} (unasked : Metered.calls source = 0) :
    ∃ walk left, run size steps source = .ok (walk, left) := by
  have single : (start size).mostCalls = 1 := by
    rw [mostCalls, (calm_start size).1]
    rfl
  have costs := (@Led.start size).advance_costs steps source
  have within : Metered.calls source + steps * (start size).mostCalls < Generator.callLimit := by
    rwa [single, Nat.mul_one, unasked, Nat.zero_add]
  obtain ⟨⟨count, walk, left⟩, advanced⟩ := costs.exists_ok within
  refine ⟨walk, left, ?_⟩
  rw [run, advanced]
  rfl

end Sources

/-! ## The three sections -/

/-- A section that counts four properties of four. -/
def CommandLine.Section.Clean (part : Section) : Prop :=
  part.report.failed = 0 ∧ part.report.passed = 4 ∧ part.report.total = 4

/-- A section on a lair that this strategy has solved.  There is an audit behind it, with all logs
in the hideout after the least number of moves, and the report is on that audit. -/
structure CommandLine.Section.OnSolved (size : Nat) (strategy : Strategy) (part : Section) :
    Prop where
  made : solvedSection size strategy = .ok part
  solved : ∃ audit, Audit.solve size strategy = .ok audit ∧ audit.lair.solved = true ∧
    audit.lair.position = ⟨[], [], logsUpTo size⟩ ∧ audit.lair.moves = 2 ^ size - 1 ∧
    audit.history.length = 2 ^ size - 1 ∧
    audit.account.check { expectOptimal := true } = .ok part.report

/-- An audit comes to its end with a solved lair, and its record is the shortest solution. -/
theorem Audit.exists_solve {size : Nat} (within : size ≤ sizeLimit) (strategy : Strategy) :
    ∃ audit, Audit.solve size strategy = .ok audit ∧ audit.lair.size = size ∧
      audit.lair.solved = true ∧ audit.lair.position = ⟨[], [], logsUpTo size⟩ ∧
      audit.lair.moves = 2 ^ size - 1 ∧ audit.history.length = 2 ^ size - 1 ∧
      (Piles.start size).retrace? audit.history.hauls = some ⟨[], [], logsUpTo size⟩ := by
  obtain ⟨attempt, answered, made, script⟩ := Lair.solve_fresh_recorded within strategy
  obtain ⟨quiet, -⟩ := Lair.transcript_record strategy (Lair.fresh size)
  obtain ⟨solved, -⟩ := Lair.solve_fresh within quiet
  obtain ⟨answer, sized, done, full, moves⟩ : attempt.answer = .ok (leastMoves size) ∧
      attempt.lair.size = size ∧ attempt.lair.solved = true ∧
      attempt.lair.position = ⟨[], [], logsUpTo size⟩ ∧ attempt.lair.moves = leastMoves size := by
    obtain rfl := Except.ok.inj (answered.symm.trans solved)
    simp [Lair.position, PerSite.map]
  refine ⟨⟨attempt.lair, attempt.seen⟩, ?_, sized, done, full, moves, ?_, made⟩
  · simp only [solve, bind_eq_ok_iff, Halt.ofError_eq_ok, Halt.ofBreach_eq_ok]
    exact ⟨_, Lair.ofNat_eq_ok_iff.2 ⟨within, rfl⟩, attempt, answered, _, answer, rfl⟩
  · have count := congrArg List.length script
    rwa [List.length_map, History.length_hauls, length_itinerary, leastMoves_eq] at count

namespace CommandLine

variable {size steps : Nat} {seed : UInt64}

/-- A check in which all is well makes a clean section. -/
theorem exists_clean {account : Account} {options : CheckOptions} (heading : String)
    (within : account.size ≤ sizeLimit) (seeded : options.seed? ≠ some 0)
    (path : (Piles.start account.size).retrace? account.history.hauls = some account.piles)
    (least : options.expectOptimal = true → account.history.length = 2 ^ account.size - 1) :
    ∃ report, account.check options = .ok report ∧ Section.Clean ⟨heading, report⟩ := by
  obtain ⟨report, checked, holds⟩ := Account.check_of_path within seeded path least
  exact ⟨report, checked, Account.counts_of_allHold seeded checked holds⟩

theorem exists_solvedSection (within : size ≤ sizeLimit) (strategy : Strategy) :
    ∃ part : Section, part.OnSolved size strategy ∧ part.Clean := by
  obtain ⟨audit, audited, rfl, done, full, moves, least, path⟩ :=
    Audit.exists_solve within strategy
  rw [← full] at path
  obtain ⟨report, checked, clean⟩ := @exists_clean audit.account { expectOptimal := true }
    (solvedHeading audit.account.size strategy) within (by decide) path (fun _ => least)
  refine ⟨_, ⟨?_, audit, audited, done, full, moves, least, checked⟩, clean⟩
  simp only [solvedSection, bind_eq_ok_iff, Halt.ofBreach_eq_ok]
  exact ⟨audit, audited, report, checked, rfl⟩

section Sources

variable (σ : Type) [Decisions σ] [FairDecisions σ] [Metered σ] [MeteredDecisions σ] [Seeded σ]
  [FreshlySeeded σ]

/-- The walk that is taken, and the report on it, which is clean. -/
theorem exists_walk_checked (within : size ≤ sizeLimit) (short : steps < Generator.callLimit)
    (nonzero : seed ≠ 0) :
    ∃ (source : σ) (walk : Walk) (left : σ) (report : Report), Seeded.ofSeed seed = .ok source ∧
      Walk.run size steps source = .ok (walk, left) ∧
      walk.account.check { seed? := some seed } = .ok report ∧
      Section.Clean ⟨walkHeading size steps seed, report⟩ ∧
      walkSection σ size steps seed = .ok ⟨walkHeading size steps seed, report⟩ := by
  obtain ⟨source, seeded, unasked⟩ := FreshlySeeded.exists_ofSeed (σ := σ) nonzero
  obtain ⟨walk, left, ran⟩ := Walk.exists_run short size unasked
  have accounted := (Walk.Led.run ran).accounted
  have path := accounted.retrace? (Walk.faults_of_run ran)
  obtain rfl := accounted.size_eq
  obtain ⟨report, checked, clean⟩ := @exists_clean walk.account { seed? := some seed }
    (walkHeading walk.size steps seed) within (by simpa using nonzero) path
    (fun expected => by cases expected)
  refine ⟨source, walk, left, report, seeded, ran, checked, clean, ?_⟩
  simp only [walkSection, bind_eq_ok_iff, Halt.ofBreach_eq_ok]
  exact ⟨source, seeded, _, ran, report, checked, rfl⟩

theorem exists_walkSection (within : size ≤ sizeLimit) (short : steps < Generator.callLimit)
    (nonzero : seed ≠ 0) : ∃ part, walkSection σ size steps seed = .ok part ∧ part.Clean := by
  obtain ⟨_, _, _, report, -, -, -, clean, made⟩ := exists_walk_checked σ within short nonzero
  exact ⟨_, made, clean⟩

end Sources

/-- Three clean sections are written one after the other, and the check succeeds. -/
theorem outcome_of_clean {σ : Type} [Decisions σ] [Seeded σ] {option? : Option UInt64}
    {environment? : Option String} {drawn : UInt64} {recursive iterative walk : Section}
    (small : size ≤ 24) (chosen : checkSeed option? environment? drawn = .ok seed)
    (first : solvedSection size .recursive = .ok recursive) (clean₁ : recursive.Clean)
    (second : solvedSection size .iterative = .ok iterative) (clean₂ : iterative.Clean)
    (third : walkSection σ size steps seed = .ok walk) (clean₃ : walk.Clean) :
    (Command.check size option? steps).outcomeBy σ environment? drawn =
      ⟨recursive.text ++ iterative.text ++ walk.text, .done true⟩ := by
  have accepted : ¬ Growth.limit < size := Nat.not_lt.2 small
  simp [Command.outcomeBy, checkOutcome, accepted, chosen, checkSections, first, second, third,
    writeSections, clean₁.1, clean₂.1, clean₃.1]

end CommandLine

/-! ## The seed -/

theorem Seed.max_one_ne_zero (word : UInt64) : max word 1 ≠ 0 := by
  show (if word ≤ 1 then (1 : UInt64) else word) ≠ 0
  split
  · decide
  · next large =>
      rintro rfl
      exact large (by decide)

/-- Whatever the seed of a check is made from, it is not zero. -/
theorem CommandLine.checkSeed_ne_zero {option? : Option UInt64} {environment? : Option String}
    {drawn seed : UInt64} (chosen : checkSeed option? environment? drawn = .ok seed) :
    seed ≠ 0 := by
  cases option? with
  | some given =>
      cases chosen
      exact Seed.max_one_ne_zero given
  | none =>
      cases environment? with
      | some raw => exact Seed.parse_ne_zero chosen
      | none =>
          cases chosen
          exact Seed.max_one_ne_zero drawn

/-- Only a text in the environment can be refused, and only where it is looked at. -/
theorem CommandLine.exists_checkSeed {option? : Option UInt64} {environment? : Option String}
    (valid : option? = none → ∀ raw, environment? = some raw → ∃ seed, Seed.parse raw = .ok seed)
    (drawn : UInt64) : ∃ seed, checkSeed option? environment? drawn = .ok seed := by
  cases option? with
  | some given => exact ⟨_, rfl⟩
  | none =>
      cases environment? with
      | some raw => exact valid rfl raw rfl
      | none => exact ⟨_, rfl⟩

/-- The check never reports a violation, whatever sources lead its walks.  Up to the largest size
that it accepts, with any seed and with fewer steps than a source may be called, it comes to its
end; its seed is not zero, the lair was solved in the one way and in the other, all four properties
hold of both and of the walk, and it succeeds.  A larger size is refused, whatever else was given,
and no seed is looked for.  Only where one is looked for do the surroundings matter.  For the
program itself the sources are generators (`Command.outcome`). -/
theorem check_command_succeeds (σ : Type) [Decisions σ] [FairDecisions σ] [Metered σ]
    [MeteredDecisions σ] [Seeded σ] [FreshlySeeded σ] (size steps : Nat) (option? : Option UInt64)
    (environment? : Option String) (drawn : UInt64) :
    (size ≤ 24 → steps < 10 ^ 9 →
      (option? = none → ∀ raw, environment? = some raw → ∃ seed, Seed.parse raw = .ok seed) →
      ∃ seed recursive iterative walk,
        checkSeed option? environment? drawn = .ok seed ∧ seed ≠ 0 ∧
        recursive.OnSolved size .recursive ∧ iterative.OnSolved size .iterative ∧
        walkSection σ size steps seed = .ok walk ∧
        (∀ part ∈ [recursive, iterative, walk],
          part.report.failed = 0 ∧ part.report.passed = 4 ∧ part.report.total = 4) ∧
        (Command.check size option? steps).outcomeBy σ environment? drawn =
          ⟨recursive.text ++ iterative.text ++ walk.text, .done true⟩ ∧
        ((Command.check size option? steps).outcomeBy σ environment? drawn).code = 0) ∧
    (24 < size → (Command.check size option? steps).seeksSeed = false ∧
      (Command.check size option? steps).outcomeBy σ environment? drawn =
        ⟨"", .failed (LairError.invalidSize size).message⟩) ∧
    ∀ environment?' drawn',
      ((Command.check size option? steps).seeksSeed = true →
        environment? = environment?' ∧ (environment? = none → drawn = drawn')) →
      (Command.check size option? steps).outcomeBy σ environment? drawn =
        (Command.check size option? steps).outcomeBy σ environment?' drawn' := by
  refine ⟨?_, ?_, fun _ _ => Command.outcomeBy_congr⟩
  · intro small short valid
    have within : size ≤ sizeLimit := small.trans (by decide)
    obtain ⟨seed, chosen⟩ := exists_checkSeed valid drawn
    have nonzero := checkSeed_ne_zero chosen
    obtain ⟨recursive, first, clean₁⟩ := exists_solvedSection within .recursive
    obtain ⟨iterative, second, clean₂⟩ := exists_solvedSection within .iterative
    obtain ⟨walk, third, clean₃⟩ := exists_walkSection σ within short nonzero
    have outcome :=
      outcome_of_clean small chosen first.made clean₁ second.made clean₂ third clean₃
    refine ⟨seed, recursive, iterative, walk, chosen, nonzero, first, second, third, ?_, outcome,
      ?_⟩
    · simp only [List.forall_mem_cons]
      exact ⟨clean₁, clean₂, clean₃, fun part inside => absurd inside List.not_mem_nil⟩
    · rw [outcome]
      rfl
  · intro large
    have beyond : ¬ size ≤ Growth.limit := Nat.not_le.2 large
    exact ⟨by simp [Command.seeksSeed, beyond], if_pos large⟩

/-- With generators, two logs with a seed between blanks succeed, and twenty-five logs are
refused. -/
theorem check_command_succeeds_trimmed :
    (2 ≤ 24 ∧ 500 < 10 ^ 9 ∧ (∃ seed, Seed.parse " 7\n" = .ok seed) ∧ 24 < 25) ∧
      ((Command.check 2 none 500).outcome (some " 7\n") 0).code = 0 ∧
      (Command.check 25 none 500).outcome (some " 7\n") 0 =
        ⟨"", .failed (LairError.invalidSize 25).message⟩ := by
  have parsed : Seed.parse " 7\n" = .ok 7 := by rfl
  have valid : (none : Option UInt64) = none → ∀ raw, some " 7\n" = some raw →
      ∃ seed, Seed.parse raw = .ok seed := by
    rintro - raw same
    cases same
    exact ⟨7, parsed⟩
  obtain ⟨_, _, _, _, -, -, -, -, -, -, -, code⟩ :=
    (check_command_succeeds Generator 2 500 none (some " 7\n") 0).1 (by decide) (by decide) valid
  exact ⟨⟨by decide, by decide, ⟨7, parsed⟩, by decide⟩, code,
    ((check_command_succeeds Generator 25 500 none (some " 7\n") 0).2.1 (by decide)).2⟩

end LogPiles
