import LogPiles.CommandLine.Options
import LogPiles.Growth

/-!
# Commands

The command line names one of three commands and sets its options.  Sizes are
signed where a lair is solved, because the lair itself refuses a negative one;
elsewhere they are words of 32 bits.
-/

namespace LogPiles.CommandLine

open Text

/-- How a growth curve is printed. -/
inductive Format where
  | table
  | json
  deriving DecidableEq

/-- What the program is asked to do. -/
inductive Command where
  /-- Solve one lair. -/
  | solve (size : Int) (iterative drawEnds drawMoves : Bool)
  /-- Print the growth curve. -/
  | growth (sizeMax : Nat) (format : Format) (iterative : Bool)
  /-- Check solved lairs and a random walk. -/
  | check (size : Nat) (seed? : Option UInt64) (walkSteps : Nat)
  deriving DecidableEq

/-- A signed number of 64 bits. -/
def signed64? (text : List Char) : Option Int :=
  (integer? text).filter fun value =>
    Int64.minValue.toInt ≤ value && value ≤ Int64.maxValue.toInt

/-- A number of 32 bits; a minus before a zero does no harm. -/
def unsigned32? (text : List Char) : Option Nat :=
  ((integer? text).filter fun value => 0 ≤ value && value < (UInt32.size : Int)).map Int.toNat

/-- A number of 64 bits. -/
def unsigned64? (text : List Char) : Option Nat :=
  (natural? text).filter (· < UInt64.size)

/-- A format by its name. -/
def format? (text : List Char) : Option Format :=
  if text = "table".toList then some .table
  else if text = "json".toList then some .json
  else none

/-- Settings of the command that solves a lair. -/
structure SolveSettings where
  size? : Option Int := none
  iterative : Bool := false
  drawEnds : Bool := false
  drawMoves : Bool := false

/-- The options of the command that solves a lair. -/
def SolveSettings.switches : List (Switch SolveSettings) :=
  [.option "size" (some 's') true fun text settings =>
      (signed64? text).map fun size => { settings with size? := some size },
    .flag "iterative" fun settings => { settings with iterative := true },
    .flag "show" fun settings => { settings with drawEnds := true },
    .flag "trace" fun settings => { settings with drawMoves := true }]

/-- Settings of the command that prints the growth curve. -/
structure GrowthSettings where
  sizeMax : Nat := ({} : Growth).sizeMax
  format : Format := .table
  iterative : Bool := false

/-- The options of the command that prints the growth curve. -/
def GrowthSettings.switches : List (Switch GrowthSettings) :=
  [.option "max" (some 'm') false fun text settings =>
      (unsigned32? text).map fun size => { settings with sizeMax := size },
    .option "format" none false fun text settings =>
      (format? text).map fun format => { settings with format := format },
    .flag "iterative" fun settings => { settings with iterative := true }]

/-- Settings of the command that checks. -/
structure CheckSettings where
  size : Nat := 5
  seed? : Option UInt64 := none
  walkSteps : Nat := 500

/-- The options of the command that checks. -/
def CheckSettings.switches : List (Switch CheckSettings) :=
  [.option "size" (some 's') false fun text settings =>
      (unsigned32? text).map fun size => { settings with size := size },
    .option "seed" none false fun text settings =>
      (unsigned64? text).map fun seed => { settings with seed? := some (.ofNat seed) },
    .option "walk-steps" none false fun text settings =>
      (unsigned64? text).map fun steps => { settings with walkSteps := steps }]

/-- Reads the options of a command and makes the command of its settings. -/
def readCommand {σ : Type} (switches : List (Switch σ)) (defaults : σ)
    (make : σ → Option Command) (words : List (List Char)) : Parsed Command :=
  match readWords switches words ⟨defaults, []⟩ with
  | .refused => .refused
  | .help => .help
  | .value settings =>
    match make settings.values with
    | none => .refused
    | some command => .value command

/-- The command of some settings; the size must have been given. -/
def SolveSettings.command? (settings : SolveSettings) : Option Command :=
  settings.size?.map fun size =>
    .solve size settings.iterative settings.drawEnds settings.drawMoves

/-- The names of the commands, the one that asks for help included. -/
def commandNames : List String := ["solve", "growth", "check", "help"]

/-- Reads the words after the name of the program. -/
def parse : List String → Parsed Command
  | [] => .refused
  | name :: words =>
    let options := words.map String.toList
    if name = "solve" then
      readCommand SolveSettings.switches {} SolveSettings.command? options
    else if name = "growth" then
      readCommand GrowthSettings.switches {}
        (fun settings => some (.growth settings.sizeMax settings.format settings.iterative))
        options
    else if name = "check" then
      readCommand CheckSettings.switches {}
        (fun settings => some (.check settings.size settings.seed? settings.walkSteps)) options
    else if name = "help" then
      match words with
      | [] => .help
      | [topic] => if topic ∈ commandNames then .help else .refused
      | _ => .refused
    else if name = "--help" ∨ name.startsWith "-h" then
      .help
    else
      .refused

end LogPiles.CommandLine
