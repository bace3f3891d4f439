import LogPiles.Account
import LogPiles.Account.Check
import LogPiles.Account.Replay
import LogPiles.Account.Violation
import LogPiles.Audit
import LogPiles.Chance.Decisions
import LogPiles.Chance.Generator
import LogPiles.Chance.Meter
import LogPiles.Chance.Script
import LogPiles.Chance.Words
import LogPiles.Columns
import LogPiles.CommandLine.Command
import LogPiles.CommandLine.Options
import LogPiles.CommandLine.Outcome
import LogPiles.Counterexample
import LogPiles.Drawing
import LogPiles.Error
import LogPiles.Explorer
import LogPiles.Finding
import LogPiles.Growth
import LogPiles.Growth.Table
import LogPiles.History
import LogPiles.Itinerary
import LogPiles.Lair
import LogPiles.Main
import LogPiles.Move
import LogPiles.Observer
import LogPiles.Pile
import LogPiles.Piles
import LogPiles.Proofs.Agenda
import LogPiles.Proofs.Breadth
import LogPiles.Proofs.Breakdown
import LogPiles.Proofs.Certificate
import LogPiles.Proofs.CheckCommand
import LogPiles.Proofs.Chronicle
import LogPiles.Proofs.Connectivity
import LogPiles.Proofs.Coverage
import LogPiles.Proofs.Delivery
import LogPiles.Proofs.Diagnosis
import LogPiles.Proofs.Distance
import LogPiles.Proofs.Evidence
import LogPiles.Proofs.Faults
import LogPiles.Proofs.Flow
import LogPiles.Proofs.Frontier
import LogPiles.Proofs.Haul
import LogPiles.Proofs.Heading
import LogPiles.Proofs.Invariants
import LogPiles.Proofs.Optimality
import LogPiles.Proofs.Picture
import LogPiles.Proofs.Placement
import LogPiles.Proofs.Progress
import LogPiles.Proofs.Reached
import LogPiles.Proofs.Readback
import LogPiles.Proofs.Relocation
import LogPiles.Proofs.Rounds
import LogPiles.Proofs.Route
import LogPiles.Proofs.Run
import LogPiles.Proofs.Shift
import LogPiles.Proofs.Solution
import LogPiles.Proofs.Spelling
import LogPiles.Proofs.Tampering
import LogPiles.Proofs.Transcript
import LogPiles.Proofs.Transfer
import LogPiles.Proofs.Verdict
import LogPiles.Proofs.Wandering
import LogPiles.Seed
import LogPiles.Site
import LogPiles.Size
import LogPiles.Solve
import LogPiles.Survey
import LogPiles.Text.Blank
import LogPiles.Text.Invisible
import LogPiles.Text.Layout
import LogPiles.Text.Numeral
import LogPiles.Text.Quoted
import LogPiles.Walk
