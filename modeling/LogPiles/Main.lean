import LogPiles.CommandLine.Outcome

/-!
# The program

Reads the command line and writes what the command has to say.  Where the command
looks for a seed, the environment is read, and a word is drawn if it holds none.
-/

open LogPiles

/-- A short reminder of the commands. -/
def usage : String :=
  "usage: lair solve --size SIZE [--iterative] [--show] [--trace]\n" ++
  "       lair growth [--max SIZE] [--format table|json] [--iterative]\n" ++
  "       lair check [--size SIZE] [--seed SEED] [--walk-steps STEPS]\n"

/-- A word drawn from the system. -/
def drawWord : IO UInt64 := do
  let bytes ← IO.getRandomBytes 8
  return bytes.foldl (fun word byte => word * 256 + byte.toUInt64) 0

/-- What a command has to find a seed: the one in the environment, or a word that is
drawn.  Nothing is read or drawn that it does not look at. -/
def seedFor (command : CommandLine.Command) : IO (Option String × UInt64) := do
  if command.seeksSeed then
    match ← IO.getEnv "DST_SEED" with
    | some raw => return (some raw, 0)
    | none => return (none, ← drawWord)
  else
    return (none, 0)

/-- Runs one command. -/
def main (args : List String) : IO UInt32 := do
  match CommandLine.parse args with
  | .refused =>
    IO.eprint usage
    return 2
  | .help =>
    IO.print usage
    return 0
  | .value command =>
    let (environment?, drawn) ← seedFor command
    let outcome := command.outcome environment? drawn
    IO.print outcome.output
    IO.eprint outcome.errorText
    return outcome.code.toUInt32
