import LogPiles.Account.Check
import LogPiles.Proofs.Route

/-!
# The verdict on a history

The check replays a history by a rule of its own.  It keeps columns where the game
has piles, it looks at the moves one by one and objects to the first that is
wrong, and it minds a *smaller* log below where the game wants a *larger* one.  The
columns are the piles turned over, and no more is to be said of them
(`Columns.piles_shift`).  The rules are not the same: two equal logs would make the
difference, so they agree only where no log lies twice.  The start is such a
position and legal hauls keep it so, for a history of any origin
(`Placement.replay_iff`).

The verdict is then known from the game alone.  A history whose hauls the game
can make is accepted when they lead to the piles of the account.  Any other
history leaves the paths of the game with some move, `Account.Departs`, and that
move is reported, together with the position in which it was made and the reason
for which the game refuses it in the words of `Piles.Refuses`.

A finding names the number of a move, but no number decides anything: under other
numbers the finding is the same apart from the one it names
(`Account.legality_renumbered`).
-/

namespace LogPiles

open Text

/-- The same violation by a move of another number. -/
def Violation.renumbered (step : Nat) : Violation → Violation
  | .ownPile move => .ownPile { move with step := step }
  | .fromEmpty move => .fromEmpty { move with step := step }
  | .notTheTop move top => .notTheTop { move with step := step } top
  | .ontoSmaller move below => .ontoSmaller { move with step := step } below
  | violation => violation

/-- Why the game does not make a move in this position, and how that is said. -/
inductive Piles.Refuses (piles : Piles) (move : Move) : String → Prop where
  | ownPile (own : move.source = move.target) :
      Refuses piles move s!"Move {move.step} takes log {move.log} onto its own pile"
  | fromEmpty (apart : move.source ≠ move.target) (bare : piles.get move.source = []) :
      Refuses piles move
        s!"Move {move.step} takes log {move.log} from the empty {move.source.label} pile"
  | notTheTop (apart : move.source ≠ move.target) {top : Log}
      (lies : piles.top? move.source = some top) (differs : top ≠ move.log) :
      Refuses piles move
        s!"Move {move.step} takes log {move.log} from {move.source.label} but its top log is {top}"
  | ontoSmaller (apart : move.source ≠ move.target)
      (lies : piles.top? move.source = some move.log) {below : Log}
      (under : piles.top? move.target = some below) (smaller : below < move.log) :
      Refuses piles move
        s!"Move {move.step} places log {move.log} onto smaller log {below} in {move.target.label}"

/-- There is only one thing to say of a move that is refused. -/
theorem Piles.Refuses.unique {piles : Piles} {move : Move} {text text' : String}
    (refused : piles.Refuses move text) (refused' : piles.Refuses move text') : text = text' := by
  cases refused with
  | ownPile own =>
      cases refused' with
      | ownPile => rfl
      | fromEmpty apart | notTheTop apart | ontoSmaller apart => exact absurd own apart
  | fromEmpty apart bare =>
      rw [← top?_eq_none_iff] at bare
      cases refused' with
      | ownPile own => exact absurd own apart
      | fromEmpty => rfl
      | notTheTop _ lies | ontoSmaller _ lies =>
          rw [bare] at lies
          cases lies
  | notTheTop apart lies differs =>
      cases refused' with
      | ownPile own => exact absurd own apart
      | fromEmpty _ bare =>
          rw [top?_eq_none_iff.2 bare] at lies
          cases lies
      | notTheTop _ lies' =>
          obtain rfl := Option.some.inj (lies.symm.trans lies')
          rfl
      | ontoSmaller _ lies' =>
          exact absurd (Option.some.inj (lies.symm.trans lies')) differs
  | ontoSmaller apart lies under =>
      cases refused' with
      | ownPile own => exact absurd own apart
      | fromEmpty _ bare =>
          rw [top?_eq_none_iff.2 bare] at lies
          cases lies
      | notTheTop _ lies' differs =>
          exact absurd (Option.some.inj (lies'.symm.trans lies)) differs
      | ontoSmaller _ _ under' =>
          obtain rfl := Option.some.inj (under.symm.trans under')
          rfl

namespace Columns

variable {columns : Columns} {move : Move} {violation : Violation}

/-- The check objects to a move for the reason for which the game refuses it. -/
theorem refuses_of_objection? (objection : columns.objection? move = some violation) :
    columns.piles.Refuses move violation.message := by
  unfold objection? at objection
  by_cases own : move.source = move.target
  · rw [if_pos own, Option.some.injEq] at objection
    exact objection ▸ .ownPile own
  · rw [if_neg own] at objection
    cases last : columns.last? move.source with
    | none =>
        simp only [last, Option.some.injEq] at objection
        have bare := Piles.top?_eq_none_iff.1 ((columns.top?_piles move.source).trans last)
        exact objection ▸ .fromEmpty own bare
    | some top =>
        have lies := (columns.top?_piles move.source).trans last
        by_cases differs : top ≠ move.log
        · simp only [last, if_pos differs, Option.some.injEq] at objection
          exact objection ▸ .notTheTop own lies differs
        · simp only [last, if_neg differs] at objection
          rw [ne_eq, not_not] at differs
          subst differs
          cases before : columns.last? move.target with
          | none => simp [before] at objection
          | some below =>
              have under := (columns.top?_piles move.target).trans before
              by_cases smaller : below < move.log
              · simp only [before, if_pos smaller, Option.some.injEq] at objection
                exact objection ▸ .ontoSmaller own lies under smaller
              · simp [before, smaller] at objection

/-- The number of a move is no reason to object to it. -/
theorem objection?_renumbered (columns : Columns) (move : Move) (step : Nat) :
    columns.objection? { move with step := step } =
      (columns.objection? move).map (Violation.renumbered step) := by
  unfold objection?
  by_cases own : move.source = move.target
  · simp [own, Violation.renumbered]
  · cases last : columns.last? move.source with
    | none => simp [own, Violation.renumbered]
    | some top =>
        by_cases differs : top = move.log
        · cases under : columns.last? move.target with
          | none => simp [own, differs]
          | some below =>
              by_cases smaller : below < move.log <;>
                simp [own, differs, smaller, Violation.renumbered]
        · simp [own, differs, Violation.renumbered]

end Columns

namespace Placement

variable {size : Nat} {place : Placement} {columns : Columns} {move : Move} {moves : List Move}
  {reached : Piles}

/-- Where no log lies twice, the check accepts the moves that the game can make. -/
theorem objection?_eq_none_iff (turned : columns.piles = place.piles size) :
    columns.objection? move = none ↔
      (place.piles size).canHop move.hop = true ∧
        (place.piles size).top? move.source = some move.log := by
  rw [Columns.objection?_eq_none_iff, turned, Piles.canHop_iff]
  constructor
  · rintro ⟨apart, lies, fits⟩
    refine ⟨⟨apart, move.log, lies, ?_⟩, lies⟩
    intro below under
    -- the two logs lie on different sites, so they are not the same
    have differs : move.log ≠ below := by
      rintro rfl
      exact apart ((top?_piles.1 lies).2.1.symm.trans (top?_piles.1 under).2.1)
    exact Nat.lt_of_le_of_ne (fits below under) differs
  · rintro ⟨⟨apart, log, lies, fits⟩, named⟩
    obtain rfl := Option.some.inj (lies.symm.trans named)
    exact ⟨apart, named, fun below under => Nat.le_of_lt (fits below under)⟩

/-- The check replays the moves that the game can make, to where they lead. -/
theorem replay_iff (turned : columns.piles = place.piles size) :
    (∃ final, columns.replay moves = .ok final ∧ final.piles = reached) ↔
      (place.piles size).retrace? (moves.map Move.haul) = some reached := by
  induction moves generalizing columns place with
  | nil => simp [turned]
  | cons move moves inductionHypothesis =>
      rw [List.map_cons, Piles.retrace?_cons, Option.bind_eq_some_iff]
      cases objection : columns.objection? move with
      | some violation =>
          rw [Columns.replay_cons_of_some objection]
          simp only [reduceCtorEq, false_and, exists_false, false_iff, not_exists, not_and]
          intro next step
          obtain ⟨lies, legal⟩ := Piles.haul?_eq_some_iff.1 step
          have accepted :=
            (objection?_eq_none_iff turned).2 ⟨(Piles.next?_eq_some_iff.1 legal).1, lies⟩
          rw [objection] at accepted
          cases accepted
      | none =>
          rw [Columns.replay_cons_of_none objection]
          obtain ⟨legal, lies⟩ := (objection?_eq_none_iff turned).1 objection
          have step : (place.piles size).haul? move.haul =
              some ((place.piles size).carry move.hop) :=
            Piles.haul?_of_canHop legal lies
          obtain ⟨-, -, moved⟩ := haul?_piles.1 step
          -- the columns after the move are the piles after the haul
          have turned' : (columns.shift move.hop move.log).piles =
              (place.piles size).carry move.hop := by
            rw [← turned] at lies ⊢
            exact Columns.piles_shift ((columns.top?_piles _).symm.trans lies)
          rw [inductionHypothesis (turned'.trans moved), step, moved]
          simp

/-- The check makes of the start what the game makes of it. -/
theorem replay_start_iff :
    (∃ final, (Columns.start size).replay moves = .ok final ∧ final.piles = reached) ↔
      (Piles.start size).retrace? (moves.map Move.haul) = some reached := by
  rw [← piles_forest]
  exact replay_iff ((Columns.piles_start size).trans (piles_forest size).symm)

end Placement

theorem Violation.message_isEmpty (violation : Violation) : violation.message.isEmpty = false := by
  unfold message
  cases violation <;> simp

/-- A property holds unless something is wrong, and then the finding says what. -/
theorem Invariant.finding_eq (property : Invariant) (counterexample? : Option Counterexample)
    (violation? : Option Violation) :
    property.finding counterexample? violation? =
      .ok ⟨property.label, violation?.isNone, violation?.map Violation.message, spec,
        property.line, violation?.bind fun _ => counterexample?⟩ := by
  have named : property.label.isEmpty = false := by
    cases property <;> decide
  have located : property.line ≠ 0 := by
    cases property <;> decide
  cases violation? with
  | none => simp [finding, Finding.pass, Finding.located, named, located, spec]
  | some violation =>
      simp [finding, Finding.fail, Finding.located, named, located, spec,
        violation.message_isEmpty, bind, Except.bind]

/-- Two findings that are the same apart from the number of a move that they name. -/
structure Finding.Renumbered (finding renumbered : Finding) : Prop where
  holds : finding.holds = renumbered.holds
  violation : ∃ (violation? : Option Violation) (step : Nat),
    finding.violation? = violation?.map Violation.message ∧
      renumbered.violation? = violation?.map fun violation => (violation.renumbered step).message
  shown : (finding.counterexample?.map fun shown => shown.snapshots.map Snapshot.bindings) =
    renumbered.counterexample?.map fun shown => shown.snapshots.map Snapshot.bindings

/-- A check has come to a finding, and it is that the property holds. -/
def Upheld (checked : Except Breach Finding) : Prop :=
  ∃ finding, checked = .ok finding ∧ finding.holds = true

namespace Account

variable {account : Account} {options : CheckOptions} {move : Move} {reached : Piles}

/-- The history of the account leaves the paths of the game with this move.  The moves before it
lead to the position, and there the rule does not allow its hop or another log is on top. -/
def Departs (account : Account) (move : Move) (reached : Piles) : Prop :=
  ∃ before later, account.history.toList = before ++ move :: later ∧
    (Piles.start account.size).retrace? (before.map Move.haul) = some reached ∧
    (reached.canHop move.hop = false ∨ reached.top? move.source ≠ some move.log)

/-- A history stays on the paths of the game or leaves them with some move. -/
theorem departs_of_retrace?_eq_none
    (stuck : (Piles.start account.size).retrace? account.history.hauls = none) :
    ∃ move reached, account.Departs move reached := by
  obtain ⟨before, haul, later, reached, split, made, refused⟩ :=
    Piles.exists_of_retrace?_eq_none stuck
  obtain ⟨first, move, rest, whole, rfl, rfl⟩ := History.exists_split split
  refine ⟨move, reached, first, rest, whole, made, ?_⟩
  by_contra allowed
  rw [not_or, Bool.not_eq_false, not_not] at allowed
  rw [@Piles.haul?_of_canHop _ move.haul allowed.1 allowed.2] at refused
  cases refused

/-- Where a history leaves the paths of the game is known from its hauls. -/
theorem Departs.renumber (departs : account.Departs move reached) {renumbered : History}
    (same : renumbered.hauls = account.history.hauls) :
    ∃ move', { account with history := renumbered }.Departs move' reached ∧
      move'.haul = move.haul := by
  obtain ⟨before, later, split, made, forbidden⟩ := departs
  rw [History.hauls, History.hauls, split, List.map_append, List.map_cons] at same
  obtain ⟨first, move', rest, whole, told, named⟩ := History.exists_split same
  obtain ⟨log, source, target⟩ := Haul.mk.inj named
  refine ⟨move', ⟨first, rest, whole, by rwa [told], ?_⟩, named⟩
  rwa [Move.hop, log, source, target]

/-- The verdict on a history whose hauls the game can make. -/
theorem legality_of_retrace?
    (made : (Piles.start account.size).retrace? account.history.hauls = some reached) :
    account.legality options = Invariant.legalMoves.finding none
      (if reached = account.piles then none
        else some (.elsewhere account.history.length reached account.piles)) := by
  obtain ⟨columns, replayed, rfl⟩ := Placement.replay_start_iff.2 made
  rw [legality, replayed]

/-- The replay of a history that leaves the paths of the game stops at that move. -/
theorem Departs.replay (departs : account.Departs move reached) :
    ∃ violation, reached.columns.objection? move = some violation ∧
      (Columns.start account.size).replay account.history.toList =
        .error ⟨move, reached, violation⟩ := by
  obtain ⟨before, later, split, made, forbidden⟩ := departs
  obtain ⟨columns, replayed, rfl⟩ := Placement.replay_start_iff.2 made
  rw [← Placement.piles_forest] at made
  obtain ⟨-, turned⟩ := Placement.retrace?_piles.1 made
  rw [Columns.columns_piles]
  cases objection : columns.objection? move with
  | none =>
      obtain ⟨allowed, lies⟩ := (Placement.objection?_eq_none_iff turned).1 objection
      rw [turned] at forbidden
      rcases forbidden with refused | other
      · rw [allowed] at refused
        cases refused
      · exact absurd lies other
  | some violation =>
      refine ⟨violation, rfl, ?_⟩
      rw [split, Columns.replay_append, replayed]
      exact Columns.replay_cons_of_some objection

/-- Where the move has a number, its report shows the position before it and the move. -/
theorem offenceStates_eq (seed? : Option UInt64) (reached : Piles) (violation : Violation)
    (positive : 0 < move.step) :
    offenceStates seed? ⟨move, reached, violation⟩ =
      .ok ⟨seed?, [positionSnapshot (move.step - 1) "Before the offending move" reached,
        moveSnapshot violation.message move]⟩ := by
  simp [offenceStates, Counterexample.add, Counterexample.ofSeed?, positionSnapshot, moveSnapshot,
    Nat.ne_of_gt positive, bind, Except.bind]

/-- The verdict on a history that leaves the paths of the game. -/
theorem Departs.legality (departs : account.Departs move reached) (options : CheckOptions) :
    ∃ violation, reached.columns.objection? move = some violation ∧
      account.legality options = (do
        let counterexample ← offenceStates options.seed? ⟨move, reached, violation⟩
        Invariant.legalMoves.finding (some counterexample) (some violation)) := by
  obtain ⟨violation, objection, replayed⟩ := departs.replay
  exact ⟨violation, objection, by rw [Account.legality, replayed]⟩

/-- The report on a move that leaves the paths of the game, in these words. -/
def reportOf (options : CheckOptions) (move : Move) (reached : Piles) (text : String) : Finding :=
  ⟨Invariant.legalMoves.label, false, some text, Invariant.spec, Invariant.legalMoves.line,
    some ⟨options.seed?,
      [positionSnapshot (move.step - 1) "Before the offending move" reached,
        moveSnapshot text move]⟩⟩

/-- Where that move has a number, the verdict reports it. -/
theorem Departs.report (departs : account.Departs move reached) (options : CheckOptions)
    (positive : 0 < move.step) :
    ∃ violation, reached.columns.objection? move = some violation ∧
      account.legality options = .ok (reportOf options move reached violation.message) := by
  obtain ⟨violation, objection, judged⟩ := departs.legality options
  refine ⟨violation, objection, ?_⟩
  rw [judged, offenceStates_eq options.seed? reached violation positive]
  exact Invariant.finding_eq .legalMoves _ (some violation)

/-- The words of the report are the reason for which the game refuses the move. -/
theorem Departs.report_of_refuses (departs : account.Departs move reached) (options : CheckOptions)
    (positive : 0 < move.step) :
    ∃ text, reached.Refuses move text ∧
      account.legality options = .ok (reportOf options move reached text) := by
  obtain ⟨violation, objection, reported⟩ := departs.report options positive
  refine ⟨violation.message, ?_, reported⟩
  have refused := Columns.refuses_of_objection? objection
  rwa [Piles.piles_columns] at refused

/-- The move with which a history departs is one of its moves. -/
theorem Departs.mem (departs : account.Departs move reached) : move ∈ account.history.toList := by
  obtain ⟨before, later, split, -⟩ := departs
  rw [split]
  exact List.mem_append_right before List.mem_cons_self

/-- A history is accepted when the game can make its hauls and they lead to the piles. -/
theorem legality_upheld_iff :
    Upheld (account.legality options) ↔
      (Piles.start account.size).retrace? account.history.hauls = some account.piles := by
  unfold Upheld
  cases made : (Piles.start account.size).retrace? account.history.hauls with
  | some reached =>
      rw [legality_of_retrace? made, Invariant.finding_eq]
      by_cases same : reached = account.piles <;> simp [same]
  | none =>
      obtain ⟨move, reached, departs⟩ := departs_of_retrace?_eq_none made
      obtain ⟨violation, -, judged⟩ := departs.legality options
      simp only [reduceCtorEq, iff_false, judged]
      rintro ⟨finding, found, holds⟩
      obtain ⟨counterexample, -, told⟩ := bind_eq_ok_iff.1 found
      obtain rfl := Except.ok.inj ((Invariant.finding_eq ..).symm.trans told)
      cases holds

/-- There is no state before a move without a number, so an offence without one cannot be shown. -/
theorem Departs.legality_of_zero (departs : account.Departs move reached) (zero : move.step = 0)
    (options : CheckOptions) : account.legality options = .error .stepUnderflow := by
  obtain ⟨violation, -, judged⟩ := departs.legality options
  rw [judged, offenceStates, if_pos zero]
  rfl

/-- The check of the moves breaks down exactly at an offence without a number. -/
theorem legality_eq_error_iff {breach : Breach} :
    account.legality options = .error breach ↔
      breach = .stepUnderflow ∧ ∃ move reached, account.Departs move reached ∧ move.step = 0 := by
  constructor
  · intro failed
    cases made : (Piles.start account.size).retrace? account.history.hauls with
    | some reached =>
        rw [legality_of_retrace? made, Invariant.finding_eq] at failed
        cases failed
    | none =>
        obtain ⟨move, reached, departs⟩ := departs_of_retrace?_eq_none made
        obtain zero | positive := Nat.eq_zero_or_pos move.step
        · rw [departs.legality_of_zero zero options] at failed
          cases failed
          exact ⟨rfl, move, reached, departs, zero⟩
        · obtain ⟨violation, -, reported⟩ := departs.report options positive
          rw [reported] at failed
          cases failed
  · rintro ⟨rfl, move, reached, departs, zero⟩
    exact departs.legality_of_zero zero options

/-- Numbered moves have a verdict. -/
theorem exists_legality (options : CheckOptions) (account : Account)
    (positive : ∀ move ∈ account.history.toList, 0 < move.step) :
    ∃ finding, account.legality options = .ok finding := by
  cases judged : account.legality options with
  | ok finding => exact ⟨finding, rfl⟩
  | error breach =>
      obtain ⟨-, move, reached, departs, zero⟩ := legality_eq_error_iff.1 judged
      exact absurd zero (Nat.ne_of_gt (positive move departs.mem))

/-- The numbers of the moves appear in the verdict and have no other part in it. -/
theorem legality_renumbered (options : CheckOptions) {renumbered : History}
    (positive : ∀ move ∈ account.history.toList, 0 < move.step)
    (positive' : ∀ move ∈ renumbered.toList, 0 < move.step)
    (same : renumbered.hauls = account.history.hauls) :
    ∃ finding finding', account.legality options = .ok finding ∧
      { account with history := renumbered }.legality options = .ok finding' ∧
      finding.Renumbered finding' := by
  cases made : (Piles.start account.size).retrace? account.history.hauls with
  | some reached =>
      have made' := made
      rw [← same] at made'
      have judged := @legality_of_retrace? account options reached made
      have judged' := @legality_of_retrace? { account with history := renumbered } options
        reached made'
      -- a verdict on the piles reached counts the moves and names none of them
      rw [← History.length_hauls, same, History.length_hauls, ← judged] at judged'
      rw [Invariant.finding_eq] at judged
      refine ⟨_, _, judged, judged'.trans judged, rfl, ⟨_, 0, rfl, ?_⟩, rfl⟩
      by_cases found : reached = account.piles <;> simp [found, Violation.renumbered]
  | none =>
      obtain ⟨move, reached, departs⟩ := departs_of_retrace?_eq_none made
      obtain ⟨move', departs', named⟩ := departs.renumber same
      obtain ⟨violation, objection, reported⟩ := departs.report options (positive move departs.mem)
      obtain ⟨violation', objection', reported'⟩ :=
        departs'.report options (positive' move' departs'.mem)
      obtain ⟨log, source, target⟩ := Haul.mk.inj named
      have again : move' = { move with step := move'.step } := by
        rw [Move.mk.injEq]
        exact ⟨rfl, log, source, target⟩
      -- to the same move there is the same objection
      have told : violation' = violation.renumbered move'.step := by
        rw [again, Columns.objection?_renumbered, objection] at objection'
        exact (Option.some.inj objection').symm
      refine ⟨_, _, reported, reported', rfl, ⟨some violation, move'.step, rfl, ?_⟩, ?_⟩
      · rw [told]
        rfl
      · simp [reportOf, positionSnapshot, moveSnapshot, log, source, target]

end Account

/-- The check of a history is the game's own verdict.  Hauls that the game can make are accepted
when they lead to the piles of the account, and refused without a counterexample when they do not.
A history that leaves the paths of the game with some move is refused with a counterexample of two
snapshots: the position in which the move was made, under the number before it, and the move.  The
violation says for what reason the game refuses the move.  One of the two is the case for every
history, and under other numbers of the moves the findings differ in these numbers alone. -/
theorem legality_decides_paths (options : CheckOptions) (account : Account)
    (positive : ∀ move ∈ account.history.toList, 0 < move.step) :
    (∀ reached, (Piles.start account.size).retrace? account.history.hauls = some reached →
      (reached = account.piles → account.legality options =
        .ok ⟨"LegalMoves", true, none, "lair.tla", 48, none⟩) ∧
      (reached ≠ account.piles → account.legality options =
        .ok ⟨"LegalMoves", false,
          some (s!"Replaying {account.history.length} moves gives " ++ reached.bracketed ++
            " but the piles are " ++ account.piles.bracketed),
          "lair.tla", 48, none⟩)) ∧
    (∀ move reached, account.Departs move reached →
      ∃ text, reached.Refuses move text ∧ account.legality options =
        .ok ⟨"LegalMoves", false, some text, "lair.tla", 48,
          some ⟨options.seed?,
            [⟨move.step - 1, "Before the offending move",
                [("Forest", String.ofList (numbers reached.forest)),
                  ("Base", String.ofList (numbers reached.base)),
                  ("Hideout", String.ofList (numbers reached.hideout))]⟩,
              ⟨move.step, text,
                [("unit", toString move.log), ("from", move.source.label),
                  ("to", move.target.label)]⟩]⟩⟩) ∧
    ((∃ reached, (Piles.start account.size).retrace? account.history.hauls = some reached) ∨
      ∃ move reached, account.Departs move reached) ∧
    ∀ renumbered : History, (∀ move ∈ renumbered.toList, 0 < move.step) →
      renumbered.hauls = account.history.hauls →
      ∃ finding finding', account.legality options = .ok finding ∧
        { account with history := renumbered }.legality options = .ok finding' ∧
        finding.Renumbered finding' := by
  refine ⟨?_, ?_, ?_, ?_⟩
  · intro reached made
    rw [Account.legality_of_retrace? made, Invariant.finding_eq]
    constructor
    · intro same
      rw [if_pos same]
      rfl
    · intro differs
      rw [if_neg differs]
      rfl
  · intro move reached departs
    exact departs.report_of_refuses options (positive move departs.mem)
  · cases made : (Piles.start account.size).retrace? account.history.hauls with
    | some reached => exact .inl ⟨reached, rfl⟩
    | none => exact .inr (Account.departs_of_retrace?_eq_none made)
  · intro renumbered positive' same
    exact Account.legality_renumbered options positive positive' same

/-- Three logs, the second of them put on the first: the report shows the position before it. -/
theorem legality_decides_paths_onto_smaller :
    (∀ move ∈ [(⟨1, 1, .forest, .hideout⟩ : Move), ⟨2, 2, .forest, .hideout⟩], 0 < move.step) ∧
      Account.legality {} ⟨3, ⟨[3], [], [2, 1]⟩,
          .ofList [⟨1, 1, .forest, .hideout⟩, ⟨2, 2, .forest, .hideout⟩]⟩ =
        .ok ⟨"LegalMoves", false, some "Move 2 places log 2 onto smaller log 1 in Hideout",
          "lair.tla", 48,
          some ⟨none,
            [⟨1, "Before the offending move",
                [("Forest", "[2, 3]"), ("Base", "[]"), ("Hideout", "[1]")]⟩,
              ⟨2, "Move 2 places log 2 onto smaller log 1 in Hideout",
                [("unit", "2"), ("from", "Forest"), ("to", "Hideout")]⟩]⟩⟩ := by
  have positive : ∀ move ∈ [(⟨1, 1, .forest, .hideout⟩ : Move), ⟨2, 2, .forest, .hideout⟩],
      0 < move.step := by decide
  obtain ⟨text, refused, judged⟩ :=
    (legality_decides_paths {} ⟨3, ⟨[3], [], [2, 1]⟩, .ofList _⟩ positive).2.1 _ _
      ⟨[⟨1, 1, .forest, .hideout⟩], [], rfl, rfl, .inl rfl⟩
  have onto : Piles.Refuses ⟨[2, 3], [], [1]⟩ ⟨2, 2, .forest, .hideout⟩ _ :=
    .ontoSmaller (by decide) rfl rfl (by decide : 1 < 2)
  rw [refused.unique onto] at judged
  exact ⟨positive, judged⟩

end LogPiles
