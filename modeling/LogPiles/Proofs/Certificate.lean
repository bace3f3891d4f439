import LogPiles.Proofs.Invariants
import LogPiles.Proofs.Optimality
import LogPiles.Proofs.Verdict

/-!
# What a good verdict is worth

The four properties are checked one apart from the other, and three of them look
at the moves little or not at all.  Still the third decides the others: piles to
which legal moves have led hold every log once and in order, and no solution is
shorter than the shortest (`Account.upheld_of_legality`).  With the least number
of moves expected, the four together leave no choice.  The account of a full
hideout passes exactly when its moves are those that solve a fresh lair, since
there is only one path of that length.
-/

namespace LogPiles

/-- A fresh lair is solved by hauls that the game can make, and no others have the hops of
its script. -/
theorem Lair.solve_fresh_recorded {size : Nat} (within : size ≤ sizeLimit) (strategy : Strategy) :
    ∃ attempt, (Lair.fresh size).solve strategy Observer.record History.empty = .ok attempt ∧
      (Piles.start size).retrace? attempt.seen.hauls = some ⟨[], [], logsUpTo size⟩ ∧
      attempt.seen.hauls.map Haul.hop = Lair.script size := by
  obtain ⟨quiet, recorded⟩ := Lair.transcript_record strategy (Lair.fresh size)
  obtain ⟨solved, hops⟩ := Lair.solve_fresh within quiet
  have story := Lair.chronicle_transcript strategy Observer.record History.empty (Lair.fresh size)
  have script : ((Lair.fresh size).transcript strategy Observer.record History.empty).seen.hauls.map
      Haul.hop = Lair.script size := by
    rw [History.hauls, recorded, List.map_map, ← hops]
    rfl
  have made := story.retrace?
  have told : ((Lair.fresh size).transcript strategy Observer.record History.empty).calls.map
      (fun call => call.1.haul) =
      ((Lair.fresh size).transcript strategy Observer.record History.empty).seen.hauls := by
    rw [History.hauls, recorded, Transcript.moves, List.map_map]
    rfl
  rw [told, position_fresh] at made
  have path := Piles.follow?_of_retrace? made
  rw [script, Piles.follow?_script] at path
  refine ⟨_, solved, ?_, script⟩
  rw [made, path]

namespace Account

variable {account : Account} {options : CheckOptions}

/-- A check of the piles always comes to a finding, and shows the piles where something is wrong
with them. -/
theorem stateFinding_eq (seed? : Option UInt64) (account : Account) (property : Invariant)
    (violation? : Option Violation) :
    account.stateFinding seed? property violation? =
      .ok ⟨property.label, violation?.isNone, violation?.map Violation.message, Invariant.spec,
        property.line, violation?.map fun violation =>
          ⟨seed?, [positionSnapshot account.history.length violation.message account.piles]⟩⟩ := by
  cases violation? with
  | none => exact Invariant.finding_eq property none none
  | some violation => exact Invariant.finding_eq property (some ⟨seed?, [_]⟩) (some violation)

/-- A check of the piles finds nothing wrong when there is nothing. -/
theorem stateFinding_upheld_iff {seed? : Option UInt64} {property : Invariant}
    {violation? : Option Violation} :
    Upheld (account.stateFinding seed? property violation?) ↔ violation? = none := by
  simp [Upheld, stateFinding_eq]

theorem conservation_upheld_iff :
    Upheld (account.conservation options) ↔
      account.piles.logs.Perm (logsUpTo account.size) := by
  rw [conservation, stateFinding_upheld_iff, loss?_eq_none_iff]

theorem order_upheld_iff :
    Upheld (account.order options) ↔ ∀ site, (account.piles.get site).Pairwise (· < ·) := by
  rw [order, stateFinding_upheld_iff, disorder?_eq_none_iff]

/-- Up to the largest size the number of moves is judged: a solution is no shorter than the
shortest, and no longer where that is expected. -/
theorem exists_excess? (within : account.size ≤ sizeLimit) (expectOptimal : Bool) :
    ∃ violation?, account.excess? expectOptimal = .ok violation? ∧
      (violation? = none ↔ (account.piles.solved account.size = true →
        2 ^ account.size - 1 ≤ account.history.length ∧
          (expectOptimal = true → account.history.length = 2 ^ account.size - 1))) := by
  rw [← leastMoves_eq]
  by_cases solved : account.piles.solved account.size = true
  · simp only [excess?, solved, if_true, optimalMoves_of_le within, bind, Except.bind, true_implies]
    by_cases few : account.history.length < leastMoves account.size
    · refine ⟨_, if_pos few, ?_⟩
      simp [Nat.not_le.2 few]
    · rw [if_neg few]
      have enough := Nat.le_of_not_lt few
      by_cases wasted : expectOptimal = true ∧ account.history.length ≠ leastMoves account.size
      · refine ⟨_, if_pos (by simpa using wasted), ?_⟩
        simp [wasted]
      · refine ⟨_, if_neg (by simpa using wasted), ?_⟩
        simpa [enough] using wasted
  · refine ⟨none, ?_, by simp [solved]⟩
    rw [excess?, if_neg solved]
    rfl

/-- A solution is short enough and long enough. -/
theorem economy_upheld_iff (within : account.size ≤ sizeLimit) :
    Upheld (account.economy options) ↔
      (account.piles.solved account.size = true →
        2 ^ account.size - 1 ≤ account.history.length ∧
          (options.expectOptimal = true → account.history.length = 2 ^ account.size - 1)) := by
  obtain ⟨violation?, judged, nothing⟩ := exists_excess? within options.expectOptimal
  rw [← nothing]
  cases violation? <;> simp [Upheld, economy, judged, Invariant.finding_eq, bind, Except.bind]

/-- What the game can make of a history leads to every log once and in order, and no solution is
shorter than the shortest. -/
theorem upheld_of_legality (within : account.size ≤ sizeLimit)
    (legal : Upheld (account.legality options)) :
    Upheld (account.conservation options) ∧ Upheld (account.order options) ∧
      (options.expectOptimal = false → Upheld (account.economy options)) := by
  rw [legality_upheld_iff] at legal
  have path := Piles.follow?_of_retrace? legal
  rw [← Placement.piles_forest] at legal
  obtain ⟨-, placed⟩ := Placement.retrace?_piles.1 legal
  rw [conservation_upheld_iff, order_upheld_iff, economy_upheld_iff within]
  refine ⟨?_, ?_, ?_⟩
  · rw [placed]
    exact Placement.logs_piles_perm account.size _
  · rw [placed]
    exact Placement.ascending_get_piles account.size _
  · intro unexpected solved
    have enough := Piles.length_of_solution path solved
    rw [List.length_map, History.length_hauls] at enough
    exact ⟨enough, by simp [unexpected]⟩

/-- A check gives its four findings, in their order. -/
theorem check_eq_ok_iff (seeded : options.seed? ≠ some 0) {report : Report} :
    account.check options = .ok report ↔
      ∃ conserved, account.conservation options = .ok conserved ∧
      ∃ ordered, account.order options = .ok ordered ∧
      ∃ legal, account.legality options = .ok legal ∧
      ∃ economic, account.economy options = .ok economic ∧
        report = ⟨[conserved, ordered, legal, economic]⟩ := by
  simp only [check, seeded, if_false, bind_eq_ok_iff, Except.ok.injEq, eq_comm (b := report)]

/-- Where the number of moves is judged there is a finding on it. -/
theorem exists_economy {violation? : Option Violation}
    (judged : account.excess? options.expectOptimal = .ok violation?) :
    ∃ finding, account.economy options = .ok finding := by
  have found : account.economy options = Invariant.minimalMoves.finding none violation? := by
    rw [economy, judged]
    rfl
  exact ⟨_, found.trans (Invariant.finding_eq .minimalMoves none violation?)⟩

/-- Up to the largest size numbered moves are checked to the end, unless the seed is zero. -/
theorem exists_check (within : account.size ≤ sizeLimit) (seeded : options.seed? ≠ some 0)
    (positive : ∀ move ∈ account.history.toList, 0 < move.step) :
    ∃ conserved, account.conservation options = .ok conserved ∧
      ∃ ordered, account.order options = .ok ordered ∧
      ∃ legal, account.legality options = .ok legal ∧
      ∃ economic, account.economy options = .ok economic ∧
        account.check options = .ok ⟨[conserved, ordered, legal, economic]⟩ := by
  obtain ⟨conserved, first⟩ : ∃ finding, account.conservation options = .ok finding :=
    ⟨_, stateFinding_eq ..⟩
  obtain ⟨ordered, second⟩ : ∃ finding, account.order options = .ok finding :=
    ⟨_, stateFinding_eq ..⟩
  obtain ⟨legal, third⟩ := exists_legality options account positive
  obtain ⟨violation?, judged, -⟩ := exists_excess? within options.expectOptimal
  obtain ⟨economic, fourth⟩ := exists_economy judged
  exact ⟨_, first, _, second, _, third, _, fourth,
    (check_eq_ok_iff seeded).2 ⟨_, first, _, second, _, third, _, fourth, rfl⟩⟩

/-- All is well with an account when all is well with each property. -/
theorem check_allHold_iff (seeded : options.seed? ≠ some 0) :
    (∃ report, account.check options = .ok report ∧ report.allHold = true) ↔
      Upheld (account.conservation options) ∧ Upheld (account.order options) ∧
        Upheld (account.legality options) ∧ Upheld (account.economy options) := by
  constructor
  · rintro ⟨report, checked, hold⟩
    obtain ⟨conserved, first, ordered, second, legal, third, economic, fourth, rfl⟩ :=
      (check_eq_ok_iff seeded).1 checked
    simp only [Report.allHold, List.all_cons, List.all_nil, Bool.and_true,
      Bool.and_eq_true] at hold
    obtain ⟨holds₁, holds₂, holds₃, holds₄⟩ := hold
    exact ⟨⟨_, first, holds₁⟩, ⟨_, second, holds₂⟩, ⟨_, third, holds₃⟩, ⟨_, fourth, holds₄⟩⟩
  · rintro ⟨⟨conserved, first, holds₁⟩, ⟨ordered, second, holds₂⟩, ⟨legal, third, holds₃⟩,
      economic, fourth, holds₄⟩
    refine ⟨⟨[conserved, ordered, legal, economic]⟩, ?_, ?_⟩
    · exact (check_eq_ok_iff seeded).2
        ⟨_, first, _, second, _, third, _, fourth, rfl⟩
    · simp [Report.allHold, holds₁, holds₂, holds₃, holds₄]

/-- An account is in order when the game can make its moves, they lead to its piles, and there are
no more of them than are expected. -/
theorem check_of_path (within : account.size ≤ sizeLimit) (seeded : options.seed? ≠ some 0)
    (path : (Piles.start account.size).retrace? account.history.hauls = some account.piles)
    (least : options.expectOptimal = true → account.history.length = 2 ^ account.size - 1) :
    ∃ report, account.check options = .ok report ∧ report.allHold = true := by
  have legal : Upheld (account.legality options) := legality_upheld_iff.2 path
  obtain ⟨conserved, ordered, -⟩ := upheld_of_legality within legal
  refine (check_allHold_iff seeded).2
    ⟨conserved, ordered, legal, (economy_upheld_iff within).2 fun solved => ⟨?_, least⟩⟩
  have enough := Piles.length_of_solution (Piles.follow?_of_retrace? path) solved
  rwa [List.length_map, History.length_hauls] at enough

/-- A report in which all is well counts four properties of four. -/
theorem counts_of_allHold (seeded : options.seed? ≠ some 0) {report : Report}
    (checked : account.check options = .ok report) (holds : report.allHold = true) :
    report.failed = 0 ∧ report.passed = 4 ∧ report.total = 4 := by
  have total : report.total = 4 := by
    obtain ⟨_, -, _, -, _, -, _, -, rfl⟩ := (check_eq_ok_iff seeded).1 checked
    rfl
  have noneFailed := Report.failed_eq_zero_iff.2 holds
  have counted := report.passed_add_failed
  rw [noneFailed, total] at counted
  exact ⟨noneFailed, counted, total⟩

/-- A history is the shortest solution when the game can make its hauls, they lead to a full
hideout, and there are no more of them than there have to be. -/
theorem hauls_eq_of_shortest {solution : List Haul} {final : Piles}
    (legal : (Piles.start account.size).retrace? account.history.hauls = some account.piles)
    (solved : account.piles.solved account.size = true)
    (short : account.history.length = 2 ^ account.size - 1)
    (made : (Piles.start account.size).retrace? solution = some final)
    (script : solution.map Haul.hop = Lair.script account.size) :
    account.history.hauls = solution ∧ account.piles = final := by
  have path := Piles.follow?_of_retrace? legal
  have least : (account.history.hauls.map Haul.hop).length = 2 ^ account.size - 1 := by
    rw [List.length_map, History.length_hauls, short]
  have hops := Piles.eq_script_of_length path solved least
  have same := Piles.hauls_eq_of_hops legal made (hops.trans script.symm)
  rw [same, made] at legal
  exact ⟨same, (Option.some.inj legal).symm⟩

end Account

/-- Where the moves of an account are legal and lead to its piles, the piles hold every log once
and in order, and they are no solution that is shorter than the shortest.  With the least number of
moves expected, an account with a full hideout passes the whole check exactly when its moves are
those that solve a fresh lair and all its logs are in the hideout. -/
theorem check_certifies_solution {account : Account} (within : account.size ≤ sizeLimit)
    (options : CheckOptions) (seeded : options.seed? ≠ some 0) :
    (Upheld (account.legality options) →
      Upheld (account.conservation options) ∧ Upheld (account.order options) ∧
        (options.expectOptimal = false → Upheld (account.economy options))) ∧
    (options.expectOptimal = true → account.piles.hideout.length = account.size →
      ∀ strategy : Strategy, ∃ lair attempt, Lair.ofNat account.size = .ok lair ∧
        lair.solve strategy Observer.record History.empty = .ok attempt ∧
        ((∃ report, account.check options = .ok report ∧ report.allHold = true) ↔
          account.history.hauls = attempt.seen.hauls ∧
            account.piles = ⟨[], [], logsUpTo account.size⟩)) := by
  refine ⟨Account.upheld_of_legality within, ?_⟩
  intro expected full strategy
  obtain ⟨attempt, answered, made, script⟩ := Lair.solve_fresh_recorded within strategy
  refine ⟨Lair.fresh account.size, attempt, Lair.ofNat_eq_ok_iff.2 ⟨within, rfl⟩, answered, ?_⟩
  have solved : account.piles.solved account.size = true := by simpa [Piles.solved] using full
  rw [Account.check_allHold_iff seeded]
  constructor
  · rintro ⟨-, -, legal, economic⟩
    have short := ((Account.economy_upheld_iff within).1 economic solved).2 expected
    have path := Account.legality_upheld_iff.1 legal
    exact Account.hauls_eq_of_shortest path solved short made script
  · rintro ⟨hauls, piles⟩
    have legal : Upheld (account.legality options) := by
      rw [Account.legality_upheld_iff, hauls, made, piles]
    have least : account.history.length = 2 ^ account.size - 1 := by
      rw [← History.length_hauls, hauls, ← List.length_map Haul.hop, script, length_itinerary,
        leastMoves_eq]
    obtain ⟨conserved, ordered, -⟩ := Account.upheld_of_legality within legal
    refine ⟨conserved, ordered, legal, (Account.economy_upheld_iff within).2 fun _ => ?_⟩
    exact ⟨Nat.le_of_eq least.symm, fun _ => least⟩

/-- Two logs, brought to the hideout in three moves: the history passes the whole check. -/
theorem check_certifies_solution_two :
    (2 ≤ sizeLimit ∧ (none : Option UInt64) ≠ some 0) ∧
      ∃ report, Account.check { expectOptimal := true } ⟨2, ⟨[], [], [1, 2]⟩,
          .ofList [⟨1, 1, .forest, .base⟩, ⟨2, 2, .forest, .hideout⟩, ⟨3, 1, .base, .hideout⟩]⟩ =
        .ok report ∧ report.allHold = true := by
  refine ⟨by decide, ?_⟩
  obtain ⟨lair, attempt, built, answered, certified⟩ :=
    (@check_certifies_solution ⟨2, ⟨[], [], [1, 2]⟩, .ofList [⟨1, 1, .forest, .base⟩,
      ⟨2, 2, .forest, .hideout⟩, ⟨3, 1, .base, .hideout⟩]⟩ (by decide)
      { expectOptimal := true } (by decide)).2 rfl rfl .recursive
  obtain rfl := (Lair.ofNat_eq_ok_iff.1 built).2
  -- the attempt is run, and its record is the history
  obtain rfl := Except.ok.inj answered
  exact certified.2 ⟨rfl, rfl⟩

end LogPiles
