import LogPiles.Account.Check
import LogPiles.Audit
import LogPiles.CommandLine.Command
import LogPiles.Drawing
import LogPiles.Growth.Table
import LogPiles.Chance.Generator
import LogPiles.Seed
import LogPiles.Walk

/-!
# What the commands do

A command is a function of its settings, of the seed in the environment and of
one word drawn at random: it tells what is written and how the program ends.  Only
a check looks at the last two, and only where it has to find a seed
(`Command.seeksSeed`).  The check consists of three sections, each of them a report
under a heading, and it succeeds if no property fails in any.

The walk of a check is led by whatever a seed stands for, so the type of the source
is a parameter up to `Command.outcomeBy`; in the program it is a generator.
-/

namespace LogPiles.CommandLine

open Chance

/-- How a command ends. -/
inductive Ending where
  /-- The command came to its end, with or without success. -/
  | done (success : Bool)
  /-- An error was reported. -/
  | failed (message : String)
  /-- A stated condition was broken. -/
  | breached (breach : Breach)
  deriving DecidableEq

/-- The ending that an unanswered error or a breach leads to. -/
def Ending.ofHalt : Halt → Ending
  | .error error => .failed error.message
  | .breach breach => .breached breach

/-- What a command has written, and how it has ended. -/
structure Outcome where
  output : String
  ending : Ending
  deriving DecidableEq

namespace Outcome

/-- The exit code. -/
def code (outcome : Outcome) : Nat :=
  match outcome.ending with
  | .done true => 0
  | .done false => 1
  | .failed _ => 1
  | .breached _ => 101

/-- What is written to the error stream. -/
def errorText (outcome : Outcome) : String :=
  match outcome.ending with
  | .done _ => ""
  | .failed message => s!"Error: {message}\n"
  | .breached breach => breach.message ++ "\n"

end Outcome

/-- The strategy that a flag selects. -/
def strategyFor (iterative : Bool) : Strategy := if iterative then .iterative else .recursive

/-- Text that is written under a condition. -/
def textIf (condition : Bool) (text : String) : String := if condition then text else ""

/-- Solves one lair and draws it as wished: before and after, or after each move. -/
def solveOutcome (size : Int) (strategy : Strategy) (drawEnds drawMoves : Bool) : Outcome :=
  match Lair.ofInt size with
  | .error error => ⟨"", .failed error.message⟩
  | .ok lair =>
    let before := textIf (drawEnds || drawMoves) (Drawing.text lair)
    let watch := Observer.write fun move lair =>
      textIf drawMoves (move.text ++ "\n" ++ Drawing.text lair)
    match lair.solve strategy watch before with
    | .error breach => ⟨before, .breached breach⟩
    | .ok ⟨.error error, _, written⟩ => ⟨written, .failed error.message⟩
    | .ok ⟨.ok moves, lair, written⟩ =>
      ⟨written ++ textIf (drawEnds && !drawMoves) (Drawing.text lair) ++
        s!"Moved {lair.size} logs from the Forest to the Hideout in {moves} moves\n",
        .done true⟩

/-- Writes a row of the table for each size. -/
def rowReporter : Reporter String :=
  fun size moves written => do
    return written ++ (← GrowthPoint.of size moves).row ++ "\n"

/-- Prints the growth curve. -/
def growthOutcome (growth : Growth) : Format → Outcome
  | .table =>
    match growth.validate with
    | .error error => ⟨"", .failed error.message⟩
    | .ok () =>
      let heading := GrowthPoint.heading ++ "\n"
      match growth.run rowReporter heading with
      | .error halt => ⟨heading, .ofHalt halt⟩
      | .ok (_, written) => ⟨written, .done true⟩
  | .json =>
    match growth.run Reporter.points #[] with
    | .error halt => ⟨"", .ofHalt halt⟩
    | .ok (points, _) => ⟨GrowthPoint.indentedArray points ++ "\n", .done true⟩

/-- A report under a heading. -/
structure Section where
  heading : String
  report : Report
  deriving DecidableEq

/-- The text of a section. -/
def Section.text (part : Section) : String :=
  part.heading ++ "\n" ++ part.report.text ++ "\n"

/-- The heading over the report on a solved lair. -/
def solvedHeading (size : Nat) (strategy : Strategy) : String :=
  s!"Solved lair ({size} logs, {strategy.label}):"

/-- The heading over the report on a walk. -/
def walkHeading (size steps : Nat) (seed : UInt64) : String :=
  s!"Random walk ({size} logs, {steps} moves, DST_SEED={seed}):"

/-- Checks a lair that is solved with this strategy. -/
def solvedSection (size : Nat) (strategy : Strategy) : Except Halt Section := do
  let audit ← Audit.solve size strategy
  let report ← Halt.ofBreach (audit.account.check { expectOptimal := true })
  return ⟨solvedHeading size strategy, report⟩

section Sources

variable (σ : Type) [Decisions σ] [Seeded σ]

/-- Checks a random walk that is led by the source of this seed. -/
def walkSection (size steps : Nat) (seed : UInt64) : Except Halt Section := do
  let source : σ ← Halt.ofBreach (Seeded.ofSeed seed)
  let (walk, _) ← Halt.ofBreach (Walk.run size steps source)
  let report ← Halt.ofBreach (walk.account.check { seed? := some seed })
  return ⟨walkHeading size steps seed, report⟩

/-- The three sections of a check, in their order. -/
def checkSections (size steps : Nat) (seed : UInt64) : List (Except Halt Section) :=
  [solvedSection size .recursive, solvedSection size .iterative, walkSection σ size steps seed]

end Sources

/-- Writes sections one after the other, up to the first that could not be made. -/
def writeSections : List (Except Halt Section) → String → Bool → Outcome
  | [], written, holds => ⟨written, .done holds⟩
  | .error halt :: _, written, _ => ⟨written, .ofHalt halt⟩
  | .ok part :: rest, written, holds =>
    writeSections rest (written ++ part.text) (holds && part.report.failed == 0)

/-- The seed of a check: the one on the command line, where a zero counts as one,
or else the one in the environment or a new one. -/
def checkSeed (option? : Option UInt64) (environment? : Option String) (drawn : UInt64) :
    Except SeedError UInt64 :=
  match option? with
  | some seed => .ok (max seed 1)
  | none => Seed.resolve environment? drawn

/-- Checks solved lairs and a random walk.  A size beyond the limit is refused
before the seed is looked at, for an audit keeps every move. -/
def checkOutcome (σ : Type) [Decisions σ] [Seeded σ] (size steps : Nat) (option? : Option UInt64)
    (environment? : Option String) (drawn : UInt64) : Outcome :=
  if Growth.limit < size then
    ⟨"", .failed (LairError.invalidSize size).message⟩
  else
    match checkSeed option? environment? drawn with
    | .error error => ⟨"", .failed error.message⟩
    | .ok seed => writeSections (checkSections σ size steps seed) "" true

/-- Whether a command looks for a seed in the environment, and draws one if there is
none: a check of a size within the limit that was given no seed. -/
def Command.seeksSeed : Command → Bool
  | .check size seed? _ => size ≤ Growth.limit && seed?.isNone
  | _ => false

/-- Carries out a command, with walks that are led by sources of this type. -/
def Command.outcomeBy (σ : Type) [Decisions σ] [Seeded σ] (environment? : Option String)
    (drawn : UInt64) : Command → Outcome
  | .solve size iterative drawEnds drawMoves =>
    solveOutcome size (strategyFor iterative) drawEnds drawMoves
  | .growth sizeMax format iterative =>
    growthOutcome ⟨sizeMax, strategyFor iterative⟩ format
  | .check size seed? steps => checkOutcome σ size steps seed? environment? drawn

/-- Carries out a command, with walks that are led by generators. -/
def Command.outcome (environment? : Option String) (drawn : UInt64) (command : Command) :
    Outcome :=
  command.outcomeBy Generator environment? drawn

/-- A command depends on no more of its surroundings than it looks for: on the text in
the environment, and on the word that is drawn only where there is no such text. -/
theorem Command.outcomeBy_congr {σ : Type} [Decisions σ] [Seeded σ] {command : Command}
    {environment? environment?' : Option String} {drawn drawn' : UInt64}
    (same : command.seeksSeed = true →
      environment? = environment?' ∧ (environment? = none → drawn = drawn')) :
    command.outcomeBy σ environment? drawn = command.outcomeBy σ environment?' drawn' := by
  cases command with
  | solve size iterative drawEnds drawMoves => rfl
  | growth sizeMax format iterative => rfl
  | check size seed? steps =>
      cases seed? with
      | some seed => rfl
      | none =>
          by_cases large : Growth.limit < size
          · simp [outcomeBy, checkOutcome, large]
          · obtain ⟨rfl, words⟩ := same (by simpa [seeksSeed] using large)
            cases environment? with
            | none => rw [words rfl]
            | some raw => rfl

end LogPiles.CommandLine
