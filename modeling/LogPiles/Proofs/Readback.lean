import LogPiles.Proofs.Evidence
import LogPiles.Text.Numeral

/-!
# Reading a diagram back

A diagram says everything that its counterexample says.  The texts in it may look
like anything, such as `[step 3]` or the bar of an arrow, so what a line is cannot be
told from what stands in it but from what it begins with: a seed line begins with a
letter, a head with a bracket, and the lines that begin with blanks are variables
where they have an equals sign and arrows where they have none.  This takes two
things of the texts (`Counterexample.Legible`): they do not break off their line,
and no name has an equals sign, so that the first one of a line is the one that
ends the name.

`Counterexample.ofDiagram` reads a text line by line, from the bottom up.  That
way the variables have been read when the head of their snapshot comes, and no line
needs to know how many there are below it (`Draft.ofLines_snapshot`).
-/

namespace LogPiles

open Text

/-- No text of the snapshot breaks off its line, and no name has an equals sign. -/
structure Snapshot.Legible (snapshot : Snapshot) : Prop where
  description : '\n' ∉ snapshot.description.toList
  names : ∀ entry ∈ snapshot.bindings, '\n' ∉ entry.1.toList ∧ '=' ∉ entry.1.toList
  values : ∀ entry ∈ snapshot.bindings, '\n' ∉ entry.2.toList

namespace Counterexample

/-- All its snapshots are legible. -/
def Legible (shown : Counterexample) : Prop := ∀ snapshot ∈ shown.snapshots, snapshot.Legible

/-- What a line of a diagram says. -/
inductive Entry where
  | seed (seed : UInt64)
  | head (step : Nat) (description : String)
  | binding (name value : String)
  | arrow

/-- Reads a line. -/
def Entry.read (line : List Char) : Entry :=
  match line.head? with
  | some 'D' => .seed (.ofNat (digitsValue (line.drop "DST_SEED=".length)))
  | some '[' =>
    let numbered := line.drop "[step ".length
    .head (digitsValue (numbered.takeWhile isDigit))
      (String.ofList ((numbered.dropWhile isDigit).drop "] ".length))
  | _ =>
    if '=' ∈ line then
      -- the blank before the equals sign is not part of the name
      let named := line.drop 4
      .binding (String.ofList (named.takeWhile (· ≠ '=')).dropLast)
        (String.ofList ((named.dropWhile (· ≠ '=')).drop "= ".length))
    else
      .arrow

/-- What has been read from the bottom up to some line: the states, and the variables of the state
whose head is still to come. -/
structure Draft where
  bindings : List (String × String) := []
  shown : Counterexample := {}

namespace Draft

/-- Takes in what the line above says. -/
def add (draft : Draft) : Entry → Draft
  | .seed seed => { draft with shown := ⟨some seed, draft.shown.snapshots⟩ }
  | .head step description =>
    ⟨[], ⟨draft.shown.seed?, ⟨step, description, draft.bindings⟩ :: draft.shown.snapshots⟩⟩
  | .binding name value => { draft with bindings := (name, value) :: draft.bindings }
  | .arrow => draft

/-- Reads some lines from the bottom up. -/
def ofLines : List (List Char) → Draft
  | [] => {}
  | line :: lines => (ofLines lines).add (.read line)

end Draft

/-- Reads a diagram. -/
def ofDiagram (diagram : String) : Counterexample :=
  (Draft.ofLines (diagram.toList.splitOn '\n').dropLast).shown

/-! ## Lines -/

namespace Entry

theorem read_seedLine (seed : UInt64) : read (seedLine seed) = .seed seed := by
  have first : (seedLine seed).head? = some 'D' := by
    unfold seedLine
    simp
  have digits : (seedLine seed).drop "DST_SEED=".length = decimal seed.toNat := by
    unfold seedLine
    rw [List.drop_left' (by rfl)]
  unfold read
  simp only [first, digits, digitsValue_decimal, UInt64.ofNat_toNat]

/-- The number of a head ends at its bracket, and the rest is the description. -/
theorem read_head (snapshot : Snapshot) :
    read snapshot.head = .head snapshot.step snapshot.description := by
  have first : snapshot.head.head? = some '[' := by
    unfold Snapshot.head
    simp
  have numbered : snapshot.head.drop "[step ".length =
      decimal snapshot.step ++ (']' :: ' ' :: snapshot.description.toList) := by
    unfold Snapshot.head
    rw [List.append_assoc, List.append_assoc, List.drop_left' (by rfl)]
    rfl
  have digital : ∀ char ∈ decimal snapshot.step, isDigit char = true :=
    fun char => isDigit_of_mem_decimal
  have bracket : ∀ char ∈ (']' :: ' ' :: snapshot.description.toList).head?,
      isDigit char = false := by
    rintro char ⟨⟩
    rfl
  unfold read
  simp only [first, numbered, takeWhile_before digital bracket, dropWhile_before digital bracket,
    digitsValue_decimal]
  exact congrArg (Entry.head snapshot.step) String.ofList_toList

/-- The name of a variable ends before the first equals sign of its line. -/
theorem read_variableLine {entry : String × String} (bare : '=' ∉ entry.1.toList) :
    read (Snapshot.variableLine entry) = .binding entry.1 entry.2 := by
  have written : Snapshot.variableLine entry =
      blanks 4 ++ ((entry.1.toList ++ [' ']) ++ ('=' :: ' ' :: entry.2.toList)) := by
    unfold Snapshot.variableLine
    simp
  have first : (Snapshot.variableLine entry).head? = some ' ' := by
    rw [written]
    rfl
  have assigned : '=' ∈ Snapshot.variableLine entry := by
    rw [written]
    simp
  have named : (Snapshot.variableLine entry).drop 4 =
      (entry.1.toList ++ [' ']) ++ ('=' :: ' ' :: entry.2.toList) := by
    rw [written, List.drop_left' (length_blanks 4)]
  have before : ∀ char ∈ entry.1.toList ++ [' '], decide (char ≠ '=') = true := by
    intro char inside
    rw [decide_eq_true_eq]
    rintro rfl
    simp [bare] at inside
  have sign : ∀ char ∈ ('=' :: ' ' :: entry.2.toList).head?, decide (char ≠ '=') = false := by
    rintro char ⟨⟩
    rfl
  unfold read
  simp only [first, assigned, if_true, named, takeWhile_before before sign,
    dropWhile_before before sign, List.dropLast_concat, String.ofList_toList]
  exact congrArg (Entry.binding entry.1) String.ofList_toList

end Entry

namespace Draft

theorem ofLines_cons (line : List Char) (lines : List (List Char)) :
    ofLines (line :: lines) = (ofLines lines).add (.read line) := rfl

/-- Variables are collected in front of those below them. -/
theorem ofLines_variables {bindings : List (String × String)}
    (bare : ∀ entry ∈ bindings, '=' ∉ entry.1.toList) (lines : List (List Char)) :
    ofLines (bindings.map Snapshot.variableLine ++ lines) =
      ⟨bindings ++ (ofLines lines).bindings, (ofLines lines).shown⟩ := by
  induction bindings with
  | nil => rfl
  | cons entry bindings inductionHypothesis =>
      rw [List.forall_mem_cons] at bare
      rw [List.map_cons, List.cons_append, ofLines_cons, inductionHypothesis bare.2,
        Entry.read_variableLine bare.1]
      rfl

/-- The lines of a snapshot are read as this snapshot, if no variables are left over below them. -/
theorem ofLines_snapshot {snapshot : Snapshot} (legible : snapshot.Legible)
    {lines : List (List Char)} {shown : Counterexample} (below : ofLines lines = ⟨[], shown⟩) :
    ofLines (snapshot.lines ++ lines) = ⟨[], ⟨shown.seed?, snapshot :: shown.snapshots⟩⟩ := by
  have bare : ∀ entry ∈ snapshot.bindings, '=' ∉ entry.1.toList :=
    fun entry inside => (legible.names entry inside).2
  rw [Snapshot.lines, List.cons_append, ofLines_cons, ofLines_variables bare, below,
    Entry.read_head, List.append_nil]
  rfl

/-- The lines of a trace are read as its snapshots. -/
theorem ofLines_trace {snapshots : List Snapshot}
    (legible : ∀ snapshot ∈ snapshots, snapshot.Legible) :
    ofLines (trace snapshots) = ⟨[], ⟨none, snapshots⟩⟩ := by
  fun_induction trace snapshots with
  | case1 => rfl
  | case2 last =>
      have read := @ofLines_snapshot last (legible last (List.mem_singleton_self last)) [] {} rfl
      rwa [List.append_nil] at read
  | case3 snapshot next rest inductionHypothesis =>
      rw [List.forall_mem_cons] at legible
      have below : ofLines (arrow ++ trace (next :: rest)) = ⟨[], ⟨none, next :: rest⟩⟩ :=
        inductionHypothesis legible.2
      rw [List.append_assoc]
      exact ofLines_snapshot legible.1 below

/-- The lines of a diagram are read as its counterexample. -/
theorem ofLines_lines {shown : Counterexample} (legible : shown.Legible) :
    ofLines shown.lines = ⟨[], shown⟩ := by
  obtain ⟨seed?, snapshots⟩ := shown
  have read : ofLines (trace snapshots) = ⟨[], ⟨none, snapshots⟩⟩ := ofLines_trace legible
  cases seed? with
  | none => exact read
  | some seed =>
      change ofLines (seedLine seed :: trace snapshots) = _
      rw [ofLines_cons, read, Entry.read_seedLine]
      rfl

end Draft

/-- A legible snapshot keeps to its lines. -/
theorem newline_not_mem_snapshot {snapshot : Snapshot} (legible : snapshot.Legible) :
    ∀ line ∈ snapshot.lines, '\n' ∉ line := by
  rw [Snapshot.lines, List.forall_mem_cons, List.forall_mem_map]
  constructor
  · unfold Snapshot.head
    simp [legible.description, not_mem_decimal]
  · intro entry inside
    unfold Snapshot.variableLine
    simp [blanks, (legible.names entry inside).1, legible.values entry inside]

theorem newline_not_mem_trace {snapshots : List Snapshot}
    (legible : ∀ snapshot ∈ snapshots, snapshot.Legible) :
    ∀ line ∈ trace snapshots, '\n' ∉ line := by
  fun_induction trace snapshots with
  | case1 => exact List.forall_mem_nil _
  | case2 last => exact newline_not_mem_snapshot (legible last (List.mem_singleton_self last))
  | case3 snapshot next rest inductionHypothesis =>
      rw [List.forall_mem_cons] at legible
      intro line inside
      rw [List.append_assoc, List.mem_append, List.mem_append] at inside
      obtain here | bar | below := inside
      · exact newline_not_mem_snapshot legible.1 line here
      · revert line
        decide
      · exact inductionHypothesis legible.2 line below

theorem newline_not_mem_lines {shown : Counterexample} (legible : shown.Legible) :
    ∀ line ∈ shown.lines, '\n' ∉ line := by
  intro line inside
  rw [lines, List.mem_append] at inside
  obtain seed | state := inside
  · obtain ⟨seed, -, rfl⟩ := List.mem_map.1 seed
    unfold seedLine
    simp [not_mem_decimal]
  · exact newline_not_mem_trace legible line state

/-- A legible counterexample is read back from its diagram. -/
theorem ofDiagram_diagram {shown : Counterexample} (legible : shown.Legible) :
    ofDiagram shown.diagram = shown := by
  have split := splitOn_unlines (newline_not_mem_lines legible) []
  rw [List.append_nil] at split
  rw [ofDiagram, diagram, String.toList_ofList, split, List.splitOn_nil, List.dropLast_concat,
    Draft.ofLines_lines legible]

end Counterexample

/-! ## What a check shows -/

theorem Site.plain_label (site : Site) : '\n' ∉ site.label.toList ∧ '=' ∉ site.label.toList := by
  cases site <;> decide

namespace Account

variable {account : Account} {options : CheckOptions} {seed? : Option UInt64}
  {property : Invariant} {violation? : Option Violation} {finding : Finding} {report : Report}
  {shown : Counterexample}

theorem legible_positionSnapshot {description : String} (plain : '\n' ∉ description.toList)
    (step : Nat) (piles : Piles) : (positionSnapshot step description piles).Legible where
  description := plain
  names := by
    intro entry inside
    obtain ⟨site, -, rfl⟩ := List.mem_map.1 inside
    exact site.plain_label
  values := by
    intro entry inside
    obtain ⟨site, -, rfl⟩ := List.mem_map.1 inside
    rw [String.toList_ofList]
    exact not_mem_numbers (by decide) rfl _

theorem legible_moveSnapshot (violation : Violation) (move : Move) :
    (moveSnapshot violation.message move).Legible where
  description := violation.newline_not_mem_message
  names := by
    unfold moveSnapshot
    simp
  values := by
    unfold moveSnapshot
    simp [Site.plain_label]

/-- What a check of the piles shows can be read back. -/
theorem legible_stateFinding
    (found : account.stateFinding seed? property violation? = .ok finding)
    (shows : finding.counterexample? = some shown) : shown.Legible := by
  rw [stateFinding_eq] at found
  cases found
  obtain ⟨violation, -, rfl⟩ := Option.map_eq_some_iff.1 shows
  intro snapshot inside
  obtain rfl := List.mem_singleton.1 inside
  exact legible_positionSnapshot violation.newline_not_mem_message _ _

theorem legible_offenceStates {offence : Offence}
    (drawn : offenceStates seed? offence = .ok shown) : shown.Legible := by
  obtain ⟨move, before, violation⟩ := offence
  obtain zero | positive := Nat.eq_zero_or_pos move.step
  · simp [offenceStates, zero] at drawn
  · rw [offenceStates_eq seed? before violation positive] at drawn
    cases drawn
    intro snapshot inside
    rw [List.mem_cons, List.mem_singleton] at inside
    obtain rfl | rfl := inside
    · exact legible_positionSnapshot (by decide) _ _
    · exact legible_moveSnapshot violation move

/-- What a check of the moves shows can be read back. -/
theorem legible_legality (found : account.legality options = .ok finding)
    (shows : finding.counterexample? = some shown) : shown.Legible := by
  unfold legality at found
  split at found
  · obtain ⟨states, drawn, told⟩ := bind_eq_ok_iff.1 found
    rw [Invariant.finding_eq] at told
    cases told
    cases shows
    exact legible_offenceStates drawn
  · rw [Invariant.finding_eq] at found
    cases found
    simp at shows

/-- Whatever a check shows can be read back. -/
theorem legible_check (checked : account.check options = .ok report)
    (inside : finding ∈ report.findings) (shows : finding.counterexample? = some shown) :
    shown.Legible := by
  obtain ⟨conserved, first, ordered, second, legal, third, economic, fourth, rfl⟩ :=
    parts_of_check checked
  simp only [List.mem_cons, List.not_mem_nil, or_false] at inside
  obtain rfl | rfl | rfl | rfl := inside
  · exact legible_stateFinding first shows
  · exact legible_stateFinding second shows
  · exact legible_legality third shows
  · rw [counterexample?_of_economy fourth] at shows
    cases shows

end Account

/-- A diagram determines its counterexample.  If no text breaks off its line and no name has an
equals sign, the seed and the states with their numbers, descriptions and variables are read back
from the diagram, so two counterexamples with the same diagram are the same.  What a check shows is
always of this kind. -/
theorem diagram_determines_counterexample :
    (∀ shown : Counterexample, shown.Legible →
      Counterexample.ofDiagram shown.diagram = shown) ∧
    (∀ first second : Counterexample, first.Legible → second.Legible →
      first.diagram = second.diagram →
        first.seed? = second.seed? ∧ first.snapshots = second.snapshots) ∧
    ∀ (options : CheckOptions) (account : Account) (report : Report),
      account.check options = .ok report →
        ∀ finding ∈ report.findings, ∀ shown, finding.counterexample? = some shown →
          shown.Legible := by
  refine ⟨fun shown => Counterexample.ofDiagram_diagram, ?_, ?_⟩
  · intro first second firstLegible secondLegible same
    have read := congrArg Counterexample.ofDiagram same
    rw [Counterexample.ofDiagram_diagram firstLegible,
      Counterexample.ofDiagram_diagram secondLegible] at read
    exact ⟨congrArg Counterexample.seed? read, congrArg Counterexample.snapshots read⟩
  · intro options account report checked finding inside shown shows
    exact Account.legible_check checked inside shows

/-- Texts that look like other lines are read as what they are. -/
theorem diagram_determines_counterexample_lookalike :
    Counterexample.ofDiagram (Counterexample.diagram
        ⟨some 7, [⟨3, "[step 4] DST_SEED=8", [(" |", "v = 1"), ("", "     |")]⟩,
          ⟨0, "    a = b", []⟩]⟩) =
      ⟨some 7, [⟨3, "[step 4] DST_SEED=8", [(" |", "v = 1"), ("", "     |")]⟩,
        ⟨0, "    a = b", []⟩]⟩ := by
  refine diagram_determines_counterexample.1 _ ?_
  intro snapshot inside
  simp only [List.mem_cons, List.not_mem_nil, or_false] at inside
  obtain rfl | rfl := inside
  · exact ⟨by decide, by simp, by simp⟩
  · exact ⟨by decide, by simp, by simp⟩

end LogPiles
