import LogPiles.Account.Replay
import LogPiles.Finding

/-!
# Checking an account

Four properties are checked, always in the same order: every log lies somewhere
and only once, no log lies on a smaller one, the moves are legal and lead to the
piles, and a solution is not shorter than a solution can be.  `Account.check`
gives a finding for each.  The first two look at the piles alone and the last
one counts, so only the third ties the piles to the moves.
-/

namespace LogPiles

open Text

/-- A property of accounts. -/
inductive Invariant where
  | unitsConserved
  | pilesOrdered
  | legalMoves
  | minimalMoves
  deriving DecidableEq

namespace Invariant

/-- The name under which a property is reported. -/
def label : Invariant → String
  | unitsConserved => "UnitsConserved"
  | pilesOrdered => "PilesOrdered"
  | legalMoves => "LegalMoves"
  | minimalMoves => "MinimalMoves"

/-- The file that states the properties. -/
def spec : String := "lair.tla"

/-- The line of the file that states a property. -/
def line : Invariant → Nat
  | unitsConserved => 39
  | pilesOrdered => 44
  | legalMoves => 48
  | minimalMoves => 53

/-- A finding on a property, which holds unless something is wrong. -/
def finding (property : Invariant) (counterexample? : Option Counterexample) :
    Option Violation → Except Breach Finding
  | none => Finding.pass property.label spec property.line
  | some violation =>
    Finding.fail property.label spec property.line violation.message counterexample?

end Invariant

/-- How an account is checked. -/
structure CheckOptions where
  /-- The seed that counterexamples name. -/
  seed? : Option UInt64 := none
  /-- Whether a solution must have the least number of moves. -/
  expectOptimal : Bool := false

namespace Account

/-- A snapshot of a position. -/
def positionSnapshot (step : Nat) (description : String) (piles : Piles) : Snapshot where
  step := step
  description := description
  bindings := Site.all.map fun site =>
    (site.label, String.ofList (numbers (piles.get site)))

/-- A snapshot of a move, under the description of what is wrong with it. -/
def moveSnapshot (description : String) (move : Move) : Snapshot where
  step := move.step
  description := description
  bindings := [("unit", toString move.log), ("from", move.source.label),
    ("to", move.target.label)]

/-- The first log that the lair does not have or that was seen before. -/
def stray? (size : Nat) (seen : List Log) : List Log → Option Violation
  | [] => none
  | log :: logs =>
    if log = 0 ∨ size < log then some (.foreignLog log size)
    else if log ∈ seen then some (.repeatedLog log)
    else stray? size (log :: seen) logs

/-- The logs of the lair that lie nowhere. -/
def missing (account : Account) : List Log :=
  let logs := account.piles.logs
  (logsUpTo account.size).filter (· ∉ logs)

/-- What is wrong with the logs as a whole, if anything is. -/
def loss? (account : Account) : Option Violation :=
  match stray? account.size [] account.piles.logs with
  | some violation => some violation
  | none =>
    if account.piles.count ≠ account.size then
      some (.missingLogs account.piles.count account.size account.missing)
    else
      none

/-- The first two neighbours of a pile that are in the wrong order. -/
def descent? : List Log → Option (Log × Log)
  | upper :: lower :: rest =>
    if lower ≤ upper then some (upper, lower) else descent? (lower :: rest)
  | _ => none

/-- The first disorder, site by site and from the top. -/
def disorder? (account : Account) : Option Violation :=
  Site.all.findSome? fun site =>
    (descent? (account.piles.get site)).map fun (upper, lower) => .outOfOrder upper lower site

/-- What is wrong with the number of moves, if anything is.  A history that does
not end with all logs in the hideout is not judged. -/
def excess? (expectOptimal : Bool) (account : Account) : Except Breach (Option Violation) :=
  if account.piles.solved account.size then do
    let moves := account.history.length
    let least ← optimalMoves account.size
    if moves < least then
      return some (.tooFewMoves account.size moves least)
    else if expectOptimal && moves ≠ least then
      return some (.notLeastMoves account.size moves least)
    else
      return none
  else
    return none

/-- A counterexample that shows the piles as they are. -/
def currentState (seed? : Option UInt64) (account : Account) (violation : Violation) :
    Except Breach Counterexample :=
  (Counterexample.ofSeed? seed?).add
    (positionSnapshot account.history.length violation.message account.piles)

/-- A finding whose counterexample, if it fails, shows the piles as they are. -/
def stateFinding (seed? : Option UInt64) (account : Account) (property : Invariant) :
    Option Violation → Except Breach Finding
  | none => property.finding none none
  | some violation => do
    let counterexample ← account.currentState seed? violation
    property.finding (some counterexample) (some violation)

/-- A counterexample that shows the position before an offence and the offence.
It needs a number for the state before the move. -/
def offenceStates (seed? : Option UInt64) (offence : Offence) : Except Breach Counterexample := do
  if offence.move.step = 0 then
    .error .stepUnderflow
  else
    let counterexample ← (Counterexample.ofSeed? seed?).add
      (positionSnapshot (offence.move.step - 1) "Before the offending move" offence.before)
    counterexample.add (moveSnapshot offence.violation.message offence.move)

/-- Every log of the lair lies on one pile, once. -/
def conservation (options : CheckOptions) (account : Account) : Except Breach Finding :=
  account.stateFinding options.seed? .unitsConserved account.loss?

/-- No log lies on a log that is not larger. -/
def order (options : CheckOptions) (account : Account) : Except Breach Finding :=
  account.stateFinding options.seed? .pilesOrdered account.disorder?

/-- The moves are legal, and they lead from the start to the piles. -/
def legality (options : CheckOptions) (account : Account) : Except Breach Finding :=
  match (Columns.start account.size).replay account.history.toList with
  | .error offence => do
    let counterexample ← offenceStates options.seed? offence
    Invariant.legalMoves.finding (some counterexample) (some offence.violation)
  | .ok columns =>
    let replayed := columns.piles
    Invariant.legalMoves.finding none
      (if replayed = account.piles then none
        else some (.elsewhere account.history.length replayed account.piles))

/-- A solution has at least the least number of moves, and no more than that
where it is expected to be optimal. -/
def economy (options : CheckOptions) (account : Account) : Except Breach Finding := do
  let violation? ← account.excess? options.expectOptimal
  Invariant.minimalMoves.finding none violation?

/-- Checks the four properties in their order.  A seed, if there is one, is not
zero. -/
def check (options : CheckOptions) (account : Account) : Except Breach Report := do
  if options.seed? = some 0 then
    .error .zeroCheckSeed
  else
    let conservation ← account.conservation options
    let order ← account.order options
    let legality ← account.legality options
    let economy ← account.economy options
    .ok ⟨[conservation, order, legality, economy]⟩

end Account

end LogPiles
