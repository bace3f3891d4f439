import LogPiles.Proofs.Certificate

/-!
# Where a check breaks down

Each part of a check puts a finding together, and each of the steps on the way
has a condition: a property has a name and a place, a violation has a text,
snapshots come in order, a state before a move has a number, and a size has a
least number of moves.  Almost all of these are met whatever the account is.  Two
are not (`Account.legality_eq_error_iff`, `Account.economy_eq_error_iff`), and
with the condition on the seed they are all that can end a check
(`Account.check_eq_error_iff`).

The number of a move matters only where the replay stops, so a history out of
order can be checked as well.  A history that was built move by move cannot stop
a check at all: its moves are numbered from one (`History.Built.numbered`).
-/

namespace LogPiles

/-! ## Histories that were built -/

namespace History

/-- The histories that come about when moves are taken in or recorded, in any order, and when only
the first moves are kept. -/
inductive Built : History → Prop where
  | empty : Built empty
  | push {history next : History} {move : Move} (earlier : Built history)
      (taken : history.push move = .ok next) : Built next
  | record {history : History} (earlier : Built history) (log : Log) (hop : Hop) :
      Built (history.record log hop).2
  | take {history : History} (earlier : Built history) (count : Nat) : Built (history.take count)

variable {history : History}

theorem Built.numbered (built : history.Built) : history.Numbered := by
  induction built with
  | empty => exact numbered_empty
  | push _ taken inductionHypothesis => exact inductionHypothesis.push taken
  | record _ log hop inductionHypothesis => exact inductionHypothesis.record log hop
  | take _ count inductionHypothesis => exact inductionHypothesis.take count

end History

/-! ## Findings -/

/-- A counterexample as a check shows it: states in the order of their steps, at least one, and the
seed of the run. -/
structure Counterexample.Coherent (seed? : Option UInt64) (shown : Counterexample) : Prop where
  nonempty : shown.snapshots ≠ []
  ordered : shown.snapshots.Pairwise (·.step ≤ ·.step)
  seed_eq : shown.seed? = seed?

/-- States that are added one by one are in order. -/
theorem Counterexample.coherent_add {seed? : Option UInt64} {shown next : Counterexample}
    {snapshot : Snapshot} (ordered : shown.snapshots.Pairwise (·.step ≤ ·.step))
    (seed_eq : shown.seed? = seed?) (added : shown.add snapshot = .ok next) :
    next.Coherent seed? := by
  obtain ⟨notEarlier, rfl⟩ := add_eq_ok_iff.1 added
  refine ⟨by simp, ?_, seed_eq⟩
  rw [List.pairwise_append]
  refine ⟨ordered, List.pairwise_singleton _ snapshot, ?_⟩
  intro earlier inside other same
  obtain rfl := List.mem_singleton.1 same
  obtain bare | ⟨first, last, split⟩ := shown.snapshots.eq_nil_or_concat'
  · simp [bare] at inside
  · -- no state is later than the last one, and that is not later than the new one
    rw [split] at ordered inside notEarlier
    have least : last.step ≤ other.step := notEarlier last (by simp)
    rw [List.pairwise_append] at ordered
    rw [List.mem_append, List.mem_singleton] at inside
    obtain here | rfl := inside
    · exact (ordered.2.2 earlier here last (List.mem_singleton_self last)).trans least
    · exact least

/-- A finding as a check presents it: under the name of its property, in one line, and with a
counterexample only if the property fails, which then is coherent. -/
structure Finding.Presentable (property : Invariant) (seed? : Option UInt64) (finding : Finding) :
    Prop where
  name_eq : finding.name = property.label
  coherent : ∀ shown, finding.counterexample? = some shown → shown.Coherent seed?
  one_line : '\n' ∉ finding.status.toList
  fails : finding.counterexample? ≠ none → finding.holds = false

namespace Account

variable {account : Account} {options : CheckOptions} {seed? : Option UInt64}
  {property : Invariant} {violation? : Option Violation} {finding : Finding} {breach : Breach}
  {move : Move} {reached : Piles}

/-- What a finding says of a property is one line. -/
theorem newline_not_mem_status {counterexample? : Option Counterexample}
    (found : property.finding counterexample? violation? = .ok finding) :
    '\n' ∉ finding.status.toList := by
  have label : '\n' ∉ property.label.toList := by
    cases property <;> decide
  rw [Invariant.finding_eq] at found
  cases found
  unfold Finding.status
  cases violation? with
  | none => simp [label, Invariant.spec]
  | some violation =>
      simp [label, Invariant.spec, violation.newline_not_mem_message]

theorem presentable_finding {counterexample? : Option Counterexample}
    (coherent : ∀ shown, counterexample? = some shown → shown.Coherent seed?)
    (found : property.finding counterexample? violation? = .ok finding) :
    finding.Presentable property seed? := by
  have one_line := newline_not_mem_status found
  rw [Invariant.finding_eq] at found
  cases found
  refine ⟨rfl, ?_, one_line, ?_⟩
  · intro shown inside
    obtain ⟨violation, -, same⟩ := Option.bind_eq_some_iff.1 inside
    exact coherent shown same
  · intro carries
    cases violation? with
    | none => exact absurd rfl carries
    | some violation => rfl

/-- A check of the piles shows them as they are. -/
theorem presentable_stateFinding
    (found : account.stateFinding seed? property violation? = .ok finding) :
    finding.Presentable property seed? := by
  cases violation? with
  | none =>
      change property.finding none none = .ok finding at found
      exact presentable_finding (by simp) found
  | some violation =>
      obtain ⟨shown, added, told⟩ := bind_eq_ok_iff.1 found
      refine presentable_finding ?_ told
      rintro _ ⟨⟩
      exact Counterexample.coherent_add .nil rfl added

/-- A check of the moves shows the position before an offence and then the offence. -/
theorem presentable_legality (found : account.legality options = .ok finding) :
    finding.Presentable .legalMoves options.seed? := by
  unfold legality at found
  split at found
  · obtain ⟨shown, drawn, told⟩ := bind_eq_ok_iff.1 found
    refine presentable_finding ?_ told
    rintro _ ⟨⟩
    unfold offenceStates at drawn
    split at drawn
    · cases drawn
    · obtain ⟨before, first, second⟩ := bind_eq_ok_iff.1 drawn
      have earlier := Counterexample.coherent_add .nil rfl first
      exact Counterexample.coherent_add earlier.ordered earlier.seed_eq second
  · exact presentable_finding (by simp) found

/-- A check of the number of moves shows nothing. -/
theorem presentable_economy (found : account.economy options = .ok finding) :
    finding.Presentable .minimalMoves options.seed? := by
  obtain ⟨violation?, -, told⟩ := bind_eq_ok_iff.1 found
  exact presentable_finding (by simp) told

/-! ## Breaches -/

/-- The check of the number of moves breaks down exactly at the full hideout of a lair that is too
large to have a least number of moves. -/
theorem economy_eq_error_iff :
    account.economy options = .error breach ↔
      breach = .sizeTooLarge account.size ∧ account.piles.hideout.length = account.size ∧
        sizeLimit < account.size := by
  by_cases full : account.piles.hideout.length = account.size
  · obtain large | within := Nat.lt_or_ge sizeLimit account.size
    · have unjudged : account.excess? options.expectOptimal =
          .error (.sizeTooLarge account.size) := by
        rw [excess?, if_pos (Piles.solved_iff.2 full), optimalMoves_of_lt large]
        rfl
      simp [economy, unjudged, full, large, bind, Except.bind, eq_comm]
    · obtain ⟨violation?, judged, -⟩ := exists_excess? within options.expectOptimal
      obtain ⟨finding, found⟩ := exists_economy judged
      simp [found, Nat.not_lt.2 within]
  · have judged : account.excess? options.expectOptimal = .ok none := by
      rw [excess?, if_neg (mt Piles.solved_iff.1 full)]
      rfl
    obtain ⟨finding, found⟩ := exists_economy judged
    simp [found, full]

/-- With another seed than zero a check breaks down where one of its last two parts does. -/
theorem check_eq_error_iff_of_seeded (seeded : options.seed? ≠ some 0) :
    account.check options = .error breach ↔
      account.legality options = .error breach ∨
        (∃ legal, account.legality options = .ok legal) ∧
          account.economy options = .error breach := by
  obtain ⟨conserved, first⟩ : ∃ finding, account.conservation options = .ok finding :=
    ⟨_, stateFinding_eq ..⟩
  obtain ⟨ordered, second⟩ : ∃ finding, account.order options = .ok finding :=
    ⟨_, stateFinding_eq ..⟩
  cases third : account.legality options <;> cases fourth : account.economy options <;>
    simp [check, seeded, first, second, third, fourth, bind, Except.bind]

/-- A check breaks down at a seed of zero, or where one of its last two parts does. -/
theorem check_eq_error_iff_parts :
    (∃ breach, account.check options = .error breach) ↔
      options.seed? = some 0 ∨ (∃ breach, account.legality options = .error breach) ∨
        ∃ breach, account.economy options = .error breach := by
  by_cases zero : options.seed? = some 0
  · simp [check, zero]
  · simp only [check_eq_error_iff_of_seeded zero, zero, false_or]
    cases account.legality options <;> simp

/-- No check complains of a seed other than zero. -/
theorem check_ne_zeroCheckSeed (seeded : options.seed? ≠ some 0) :
    account.check options ≠ .error .zeroCheckSeed := by
  rw [Ne, check_eq_error_iff_of_seeded seeded, legality_eq_error_iff, economy_eq_error_iff]
  rintro (⟨named, -⟩ | ⟨-, named, -⟩) <;> cases named

/-- The parts break down at an offence without a number and at the full hideout of a lair that is
too large. -/
theorem check_eq_error_iff :
    (∃ breach, account.check options = .error breach) ↔
      options.seed? = some 0 ∨
        (∃ move reached, account.Departs move reached ∧ move.step = 0) ∨
        (account.piles.hideout.length = account.size ∧ sizeLimit < account.size) := by
  simp only [check_eq_error_iff_parts, legality_eq_error_iff, economy_eq_error_iff, exists_eq_left]

theorem exists_report (seeded : options.seed? ≠ some 0)
    (numbered : ∀ move reached, account.Departs move reached → move.step ≠ 0)
    (small : account.piles.hideout.length = account.size → account.size ≤ sizeLimit) :
    ∃ report, account.check options = .ok report := by
  cases checked : account.check options with
  | ok report => exact ⟨report, rfl⟩
  | error breach =>
      obtain zero | ⟨move, reached, departs, zero⟩ | ⟨full, large⟩ :=
        check_eq_error_iff.1 ⟨breach, checked⟩
      · exact absurd zero seeded
      · exact absurd zero (numbered move reached departs)
      · exact absurd (small full) (Nat.not_le.2 large)

/-- A check that does not break down reports what its four parts find. -/
theorem parts_of_check {report : Report} (checked : account.check options = .ok report) :
    ∃ conserved, account.conservation options = .ok conserved ∧
    ∃ ordered, account.order options = .ok ordered ∧
    ∃ legal, account.legality options = .ok legal ∧
    ∃ economic, account.economy options = .ok economic ∧
      report = ⟨[conserved, ordered, legal, economic]⟩ := by
  have seeded : options.seed? ≠ some 0 := by
    intro zero
    obtain ⟨breach, failed⟩ := check_eq_error_iff_parts.2 (.inl zero)
    rw [checked] at failed
    cases failed
  exact (check_eq_ok_iff seeded).1 checked

/-- What a check that does not break down reports. -/
theorem presentable_check {report : Report} (checked : account.check options = .ok report) :
    ∃ conserved ordered legal economic, report = ⟨[conserved, ordered, legal, economic]⟩ ∧
      conserved.Presentable .unitsConserved options.seed? ∧
      ordered.Presentable .pilesOrdered options.seed? ∧
      legal.Presentable .legalMoves options.seed? ∧
      economic.Presentable .minimalMoves options.seed? := by
  obtain ⟨conserved, first, ordered, second, legal, third, economic, fourth, rfl⟩ :=
    parts_of_check checked
  exact ⟨conserved, ordered, legal, economic, rfl, presentable_stateFinding first,
    presentable_stateFinding second, presentable_legality third, presentable_economy fourth⟩

/-- Whatever a check finds, it presents it. -/
theorem exists_presentable {report : Report} (checked : account.check options = .ok report)
    (inside : finding ∈ report.findings) :
    ∃ property, finding.Presentable property options.seed? := by
  obtain ⟨conserved, ordered, legal, economic, rfl, first, second, third, fourth⟩ :=
    presentable_check checked
  simp only [List.mem_cons, List.not_mem_nil, or_false] at inside
  obtain rfl | rfl | rfl | rfl := inside
  · exact ⟨_, first⟩
  · exact ⟨_, second⟩
  · exact ⟨_, third⟩
  · exact ⟨_, fourth⟩

end Account

/-- Whatever the account is, a check breaks down in three cases and in no others: its seed is zero,
the first move that the game could not make has no number, or the hideout holds as many logs as a
lair that is too large for a least number of moves.  Otherwise it reports its four findings in their
order, and every counterexample in them shows at least one state, its states in the order of their
steps, and the seed that was given.  Up to the largest size a history that was built move by move is
therefore always checked to the end. -/
theorem check_breaks_down_iff (options : CheckOptions) (account : Account) :
    ((∃ breach, account.check options = .error breach) ↔
      options.seed? = some 0 ∨
        (∃ move reached, account.Departs move reached ∧ move.step = 0) ∨
        (account.piles.hideout.length = account.size ∧ sizeLimit < account.size)) ∧
    (options.seed? ≠ some 0 →
      (∀ move reached, account.Departs move reached → move.step ≠ 0) →
      (account.piles.hideout.length = account.size → account.size ≤ sizeLimit) →
      ∃ report, account.check options = .ok report ∧
        report.findings.map Finding.name =
          ["UnitsConserved", "PilesOrdered", "LegalMoves", "MinimalMoves"] ∧
        ∀ finding ∈ report.findings, ∀ shown, finding.counterexample? = some shown →
          shown.Coherent options.seed?) ∧
    (account.size ≤ sizeLimit → options.seed? ≠ some 0 → account.history.Built →
      ∃ report, account.check options = .ok report) := by
  refine ⟨Account.check_eq_error_iff, ?_, ?_⟩
  · intro seeded numbered small
    obtain ⟨report, checked⟩ := Account.exists_report seeded numbered small
    obtain ⟨conserved, ordered, legal, economic, rfl, first, second, third, fourth⟩ :=
      Account.presentable_check checked
    refine ⟨_, checked, ?_, ?_⟩
    · simp only [List.map_cons, List.map_nil, first.name_eq, second.name_eq, third.name_eq,
        fourth.name_eq, Invariant.label]
    · simp only [List.forall_mem_cons]
      exact ⟨first.coherent, second.coherent, third.coherent, fourth.coherent, by simp⟩
  · intro within seeded built
    refine Account.exists_report seeded ?_ fun _ => within
    intro move reached departs
    exact Nat.ne_of_gt (built.numbered.positive move departs.mem)

/-- One log, moved onto its own pile.  Under the number zero the move cannot be reported, and if it
is recorded it can. -/
theorem check_breaks_down_iff_unnumbered :
    (∃ breach, Account.check {} ⟨1, ⟨[1], [], []⟩, .ofList [⟨0, 1, .forest, .forest⟩]⟩ =
      .error breach) ∧
    (1 ≤ sizeLimit ∧ (none : Option UInt64) ≠ some 0 ∧
      (History.empty.record 1 ⟨.forest, .forest⟩).2.Built) ∧
    ∃ report, Account.check {} ⟨1, ⟨[1], [], []⟩, (History.empty.record 1 ⟨.forest, .forest⟩).2⟩ =
      .ok report := by
  have within : 1 ≤ sizeLimit := by decide
  have seeded : (none : Option UInt64) ≠ some 0 := by decide
  have built : (History.empty.record 1 ⟨.forest, .forest⟩).2.Built := .record .empty 1 _
  refine ⟨?_, ⟨within, seeded, built⟩, ?_⟩
  · refine (check_breaks_down_iff {} _).1.2 (.inr (.inl ?_))
    exact ⟨⟨0, 1, .forest, .forest⟩, ⟨[1], [], []⟩, ⟨[], [], rfl, rfl, .inl rfl⟩, rfl⟩
  · exact (check_breaks_down_iff {} ⟨1, ⟨[1], [], []⟩, _⟩).2.2 within seeded built

end LogPiles
