import LogPiles.Proofs.Breakdown

/-!
# The counterexample that a report shows

A report shows the counterexample of its first failure and looks no further, and
where that failure has none it shows nothing, whatever the findings behind it
carry.  So a report that was put together by hand may hide a counterexample.  It
hides none when two conditions are met (`Report.Forthcoming`): only failures carry
counterexamples, and behind a failure without one there is none.

A check meets them.  The two checks of the piles have a counterexample whenever
they fail, the check of the number of moves never has one, and between them a
history may be refused without one, but then only the number of moves is still to
be judged (`Account.forthcoming_check`).

That the counterexample can be found in the text is a matter of lines.  The lines
before it begin with a capital or a bracket and hold no line feed of their own, so
none of them is the line that announces a counterexample.
-/

namespace LogPiles

open Text

theorem Finding.head?_status (finding : Finding) : finding.status.toList.head? = some '[' := by
  unfold Finding.status
  cases finding.holds <;> simp [String.toList_append]

namespace Report

/-- Only failures carry counterexamples, and none comes behind a failure that carries none. -/
structure Forthcoming (report : Report) : Prop where
  fails : ∀ finding ∈ report.findings, finding.counterexample? ≠ none → finding.holds = false
  none_behind : report.findings.Pairwise fun earlier later =>
    earlier.holds = false → earlier.counterexample? = none → later.counterexample? = none

variable {report : Report} {earlier later : List Finding} {finding : Finding}
  {shown : Counterexample}

/-- The first counterexample belongs to the first failure. -/
theorem Forthcoming.first (forthcoming : report.Forthcoming)
    (split : report.findings = earlier ++ finding :: later)
    (nothing : ∀ other ∈ earlier, other.counterexample? = none)
    (carries : finding.counterexample? = some shown) :
    (∀ other ∈ earlier, other.holds = true) ∧ finding.holds = false ∧
      report.firstFailure? = some finding := by
  have fails : finding.holds = false :=
    forthcoming.fails finding (by rw [split]; simp) (by rw [carries]; simp)
  have hold : ∀ other ∈ earlier, other.holds = true := by
    intro other inside
    have ordered := forthcoming.none_behind
    rw [split, List.pairwise_append] at ordered
    by_contra failed
    have hidden := ordered.2.2 other inside finding List.mem_cons_self
      (Bool.eq_false_iff.2 failed) (nothing other inside)
    rw [carries] at hidden
    cases hidden
  refine ⟨hold, fails, List.find?_eq_some_iff_append.2 ⟨?_, earlier, later, split, ?_⟩⟩
  · rw [fails]
    rfl
  · intro other inside
    rw [hold other inside]
    rfl

/-- A forthcoming report shows a counterexample if there is one. -/
theorem Forthcoming.counterexample?_ne_none_iff (forthcoming : report.Forthcoming) :
    report.counterexample? ≠ none ↔ ∃ finding ∈ report.findings, finding.counterexample? ≠ none := by
  constructor
  · intro shows
    obtain ⟨shown, shows⟩ := Option.ne_none_iff_exists'.1 shows
    obtain ⟨finding, failure, carries⟩ := Option.bind_eq_some_iff.1 shows
    exact ⟨finding, List.mem_of_find?_eq_some failure, by rw [carries]; simp⟩
  · rintro ⟨finding, inside, carries⟩
    have found : (report.findings.find? (·.counterexample?.isSome)).isSome := by
      rw [List.find?_isSome]
      exact ⟨finding, inside, Option.isSome_iff_ne_none.2 carries⟩
    obtain ⟨first, found⟩ := Option.isSome_iff_exists.1 found
    obtain ⟨carries, earlier, later, split, nothing⟩ := List.find?_eq_some_iff_append.1 found
    obtain ⟨shown, carries⟩ := Option.isSome_iff_exists.1 carries
    obtain ⟨-, -, failure⟩ := forthcoming.first split (by simpa using nothing) carries
    rw [counterexample?, failure, Option.bind_some, carries]
    exact Option.some_ne_none shown

theorem text_of_none (nothing : report.counterexample? = none) : report.text = report.overview := by
  unfold text
  rw [nothing]

theorem text_of_some (shows : report.counterexample? = some shown) :
    report.text = report.overview ++ "\nCounterexample:\n" ++ shown.diagram := by
  unfold text evidence
  rw [shows, String.append_assoc]

/-! ## Lines -/

/-- The first line of a report. -/
def headline (report : Report) : String :=
  s!"Property Check Summary: {report.passed}/{report.total} passed"

/-- The overview is the first line and a line for each finding. -/
theorem toList_overview (report : Report) :
    report.overview.toList =
      unlines (report.headline.toList :: report.findings.map fun finding => finding.status.toList) := by
  unfold overview headline
  simp [String.toList_join, List.flatMap_map, unlines]

theorem head?_headline (report : Report) : report.headline.toList.head? = some 'P' := by
  unfold headline
  simp

theorem newline_not_mem_headline (report : Report) : '\n' ∉ report.headline.toList := by
  unfold headline
  simp

/-- The line that announces a counterexample. -/
def announcement : List Char := "Counterexample:".toList

/-- The lines of an overview, if no finding breaks off its line. -/
theorem splitOn_overview (plain : ∀ finding ∈ report.findings, '\n' ∉ finding.status.toList)
    (rest : List Char) :
    (report.overview.toList ++ rest).splitOn '\n' =
      (report.headline.toList :: report.findings.map fun finding => finding.status.toList) ++
        rest.splitOn '\n' := by
  rw [toList_overview]
  refine splitOn_unlines ?_ rest
  rw [List.forall_mem_cons]
  exact ⟨newline_not_mem_headline report, by simpa using plain⟩

/-- No line of an overview announces a counterexample. -/
theorem announcement_not_mem_overview
    (plain : ∀ finding ∈ report.findings, '\n' ∉ finding.status.toList) :
    announcement ∉ report.overview.toList.splitOn '\n' := by
  have first : announcement ≠ report.headline.toList := fun same => by
    have letter := head?_headline report
    rw [← same] at letter
    cases letter
  have others : ∀ finding ∈ report.findings, finding.status.toList ≠ announcement := by
    intro finding _ same
    have bracket := finding.head?_status
    rw [same] at bracket
    cases bracket
  have last : announcement ≠ [] := by decide
  have lines := splitOn_overview plain []
  rw [List.append_nil] at lines
  simpa [lines, first, last] using others

/-- A text announces a counterexample in a line of its own if there is one to be shown. -/
theorem announcement_mem_text_iff
    (plain : ∀ finding ∈ report.findings, '\n' ∉ finding.status.toList) :
    announcement ∈ report.text.toList.splitOn '\n' ↔ report.counterexample? ≠ none := by
  cases shows : report.counterexample? with
  | none => simpa [text_of_none shows] using announcement_not_mem_overview plain
  | some shown =>
      have written : report.text.toList =
          report.overview.toList ++ (unlines [[], announcement] ++ shown.diagram.toList) := by
        simp only [text_of_some shows, String.toList_append, List.append_assoc]
        rfl
      rw [written, splitOn_overview plain, splitOn_unlines (by decide)]
      simp

end Report

namespace Account

variable {account : Account} {options : CheckOptions} {seed? : Option UInt64}
  {property : Invariant} {violation? : Option Violation} {finding : Finding} {report : Report}

/-- A check of the piles that fails has a counterexample. -/
theorem counterexample?_ne_none_of_fails
    (found : account.stateFinding seed? property violation? = .ok finding)
    (fails : finding.holds = false) : finding.counterexample? ≠ none := by
  rw [stateFinding_eq] at found
  cases found
  cases violation? with
  | none => cases fails
  | some violation => exact Option.some_ne_none _

/-- A check of the number of moves has no counterexample. -/
theorem counterexample?_of_economy (found : account.economy options = .ok finding) :
    finding.counterexample? = none := by
  obtain ⟨violation?, -, told⟩ := bind_eq_ok_iff.1 found
  rw [Invariant.finding_eq] at told
  cases told
  cases violation? <;> rfl

/-- No counterexample of a check comes behind a failure that has none. -/
theorem forthcoming_check (checked : account.check options = .ok report) : report.Forthcoming := by
  constructor
  · intro finding inside
    obtain ⟨property, presented⟩ := exists_presentable checked inside
    exact presented.fails
  · obtain ⟨conserved, first, ordered, second, legal, -, economic, fourth, rfl⟩ :=
      parts_of_check checked
    refine .cons ?_ (.cons ?_ (.cons ?_ (List.pairwise_singleton _ economic)))
    · intro later _ fails bare
      exact absurd bare (counterexample?_ne_none_of_fails first fails)
    · intro later _ fails bare
      exact absurd bare (counterexample?_ne_none_of_fails second fails)
    · -- the check of the moves may fail without a counterexample, and only one more check follows
      intro later inside _ _
      obtain rfl := List.mem_singleton.1 inside
      exact counterexample?_of_economy fourth

end Account

/-- The diagram of a run with a seed begins with a line for the seed. -/
theorem Counterexample.diagram_of_seed {shown : Counterexample} {seed : UInt64}
    (seeded : shown.seed? = some seed) :
    ∃ rest, shown.diagram = s!"DST_SEED={seed}\n" ++ rest := by
  refine ⟨String.ofList (unlines (trace shown.snapshots)), ?_⟩
  have digits : (toString seed).toList = decimal seed.toNat := toList_toString seed.toNat
  rw [← String.toList_inj]
  unfold diagram lines seedLine
  simp [seeded, digits]

/-- A check never hides a counterexample.  The text of its report announces one exactly when one of
the four findings carries one, and is the overview alone otherwise.  What it shows behind the
announcement is the diagram of the first finding that carries a counterexample, and this is also the
first finding that fails and the one with which the report is refused.  The diagram begins with the
seed, where one was given. -/
theorem report_shows_evidence {account : Account} {options : CheckOptions} {report : Report}
    (checked : account.check options = .ok report) :
    Report.announcement ∉ report.overview.toList.splitOn '\n' ∧
    (Report.announcement ∈ report.text.toList.splitOn '\n' ↔
      ∃ finding ∈ report.findings, finding.counterexample? ≠ none) ∧
    ((∀ finding ∈ report.findings, finding.counterexample? = none) →
      report.text = report.overview) ∧
    (∀ earlier finding later shown, report.findings = earlier ++ finding :: later →
      (∀ other ∈ earlier, other.counterexample? = none) → finding.counterexample? = some shown →
        (∀ other ∈ earlier, other.holds = true) ∧ finding.holds = false ∧
        report.verify = .error finding ∧
        report.text = report.overview ++ "\nCounterexample:\n" ++ shown.diagram ∧
        ∀ seed, options.seed? = some seed →
          ∃ rest, shown.diagram = s!"DST_SEED={seed}\n" ++ rest) ∧
    (report.verify = .ok () ↔ report.allHold = true) ∧
    (report.allHold = true ↔ report.failed = 0) := by
  have forthcoming := Account.forthcoming_check checked
  have plain : ∀ finding ∈ report.findings, '\n' ∉ finding.status.toList := by
    intro finding inside
    obtain ⟨property, presented⟩ := Account.exists_presentable checked inside
    exact presented.one_line
  have shows_iff := forthcoming.counterexample?_ne_none_iff
  refine ⟨Report.announcement_not_mem_overview plain,
    (Report.announcement_mem_text_iff plain).trans shows_iff, ?_, ?_, Report.verify_eq_ok_iff,
    Report.failed_eq_zero_iff.symm⟩
  · intro bare
    have nothing : report.counterexample? = none := by
      by_contra shows
      obtain ⟨finding, inside, carries⟩ := shows_iff.1 shows
      exact carries (bare finding inside)
    rw [Report.text_of_none nothing]
  · intro earlier finding later shown split nothing carries
    obtain ⟨hold, fails, failure⟩ := forthcoming.first split nothing carries
    refine ⟨hold, fails, ?_, ?_, ?_⟩
    · rw [Report.verify, failure]
    · rw [Report.text_of_some (Option.bind_eq_some_iff.2 ⟨finding, failure, carries⟩)]
    · intro seed given
      have inside : finding ∈ report.findings := by rw [split]; simp
      obtain ⟨property, presented⟩ := Account.exists_presentable checked inside
      exact Counterexample.diagram_of_seed ((presented.coherent shown carries).seed_eq.trans given)

/-- One log of two is lost.  That the moves do not lead to the piles fails without a counterexample,
but the lost log is found before, so its counterexample is shown under the seed. -/
theorem report_shows_evidence_lost :
    ∃ report, Account.check { seed? := some 7 } ⟨2, ⟨[], [], [2]⟩, .empty⟩ = .ok report ∧
      Report.announcement ∈ report.text.toList.splitOn '\n' ∧
      ∃ rest, report.text = report.overview ++ "\nCounterexample:\n" ++ ("DST_SEED=7\n" ++ rest) := by
  obtain ⟨conserved, first, ordered, -, legal, -, economic, -, checked⟩ :=
    @Account.exists_check ⟨2, ⟨[], [], [2]⟩, .empty⟩ { seed? := some 7 } (by decide) (by decide)
      (fun _ inside => by cases inside)
  have carries : ∃ shown, conserved.counterexample? = some shown := by
    rw [Account.conservation, Account.stateFinding_eq] at first
    cases first
    exact ⟨_, rfl⟩
  obtain ⟨shown, carries⟩ := carries
  obtain ⟨-, announced, -, first_shown, -⟩ := report_shows_evidence checked
  obtain ⟨-, -, -, written, seeded⟩ :=
    first_shown [] conserved [ordered, legal, economic] shown rfl (by simp) carries
  obtain ⟨rest, diagram⟩ := seeded 7 rfl
  have line : s!"DST_SEED={(7 : UInt64)}\n" = "DST_SEED=7\n" := by decide
  refine ⟨_, checked, announced.2 ⟨conserved, List.mem_cons_self, by simp [carries]⟩, rest, ?_⟩
  rw [written, diagram, line]

end LogPiles
