import LogPiles.Account
import LogPiles.Text.Layout

/-!
# What can be wrong with an account

One cause for each way in which a property fails, and the wording of each.
-/

namespace LogPiles

open Text

/-- What is wrong with an account. -/
inductive Violation where
  /-- A log that a lair of this size does not have. -/
  | foreignLog (log : Log) (size : Nat)
  /-- A log that lies in two places. -/
  | repeatedLog (log : Log)
  /-- Logs of the lair that lie nowhere. -/
  | missingLogs (found size : Nat) (missing : List Log)
  /-- A log that lies directly on one that is not larger. -/
  | outOfOrder (upper lower : Log) (site : Site)
  /-- A move back to the pile it came from. -/
  | ownPile (move : Move)
  /-- A move from a pile without logs. -/
  | fromEmpty (move : Move)
  /-- A move of a log that is not the top one. -/
  | notTheTop (move : Move) (top : Log)
  /-- A move onto a smaller log. -/
  | ontoSmaller (move : Move) (below : Log)
  /-- The moves lead to other piles than the ones found. -/
  | elsewhere (moves : Nat) (replayed found : Piles)
  /-- Fewer moves than any solution has. -/
  | tooFewMoves (size moves least : Nat)
  /-- More moves than the shortest solution has. -/
  | notLeastMoves (size moves least : Nat)
  deriving DecidableEq

/-- The three piles in brackets, such as `[[1, 2], [], [3]]`. -/
def Piles.bracketed (piles : Piles) : String :=
  String.ofList (Text.bracketed (piles.toList.map numbers))

/-- The wording of a violation. -/
def Violation.message : Violation → String
  | .foreignLog log size => s!"Log {log} is not part of a lair of size {size}"
  | .repeatedLog log => s!"Log {log} appears more than once"
  | .missingLogs found size missing =>
    s!"Piles hold {found} logs but the lair has {size}; missing " ++
      String.ofList (numbers missing)
  | .outOfOrder upper lower site =>
    s!"Log {upper} rests on log {lower} in the {site.label} pile"
  | .ownPile move => s!"Move {move.step} takes log {move.log} onto its own pile"
  | .fromEmpty move =>
    s!"Move {move.step} takes log {move.log} from the empty {move.source.label} pile"
  | .notTheTop move top =>
    s!"Move {move.step} takes log {move.log} from {move.source.label} but its top log is {top}"
  | .ontoSmaller move below =>
    s!"Move {move.step} places log {move.log} onto smaller log {below} in {move.target.label}"
  | .elsewhere moves replayed found =>
    s!"Replaying {moves} moves gives " ++ replayed.bracketed ++
      " but the piles are " ++ found.bracketed
  | .tooFewMoves size moves least =>
    s!"Solved {size} logs in {moves} moves, fewer than the minimum {least}"
  | .notLeastMoves size moves least =>
    s!"Solved {size} logs in {moves} moves, expected exactly {least}"

/-- The wording of a violation is one line. -/
theorem Violation.newline_not_mem_message (violation : Violation) :
    '\n' ∉ violation.message.toList := by
  have logs : ∀ logs, '\n' ∉ numbers logs := not_mem_numbers (by decide) rfl
  have piles : ∀ piles : Piles, '\n' ∉ Text.bracketed (piles.toList.map numbers) := by
    intro piles
    refine not_mem_bracketed (by decide) fun item inside => ?_
    obtain ⟨pile, -, rfl⟩ := List.mem_map.1 inside
    exact logs pile
  have labels : ∀ site : Site, '\n' ∉ site.label.toList := by
    intro site
    cases site <;> decide
  unfold message
  cases violation <;> simp [toString_text, Piles.bracketed, logs, piles, labels]

end LogPiles
