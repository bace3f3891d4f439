import LogPiles.Account.Violation
import LogPiles.Columns

/-!
# Replaying a history

A history is replayed from the start, move by move, until one of them is
objected to.  A move must take the log it names from the top of another pile and
must not put it on a smaller log.  The objection to a move is the first of these
that fails, so the cases of `objection?` are in the order in which they are
looked at.

The replay keeps columns of its own, which are turned over where a position is
shown or compared.
-/

namespace LogPiles

/-- What is wrong with a move made in this position, if anything is. -/
def Columns.objection? (columns : Columns) (move : Move) : Option Violation :=
  if move.source = move.target then
    some (.ownPile move)
  else
    match columns.last? move.source with
    | none => some (.fromEmpty move)
    | some top =>
      if top ≠ move.log then
        some (.notTheTop move top)
      else
        match columns.last? move.target with
        | none => none
        | some below => if below < move.log then some (.ontoSmaller move below) else none

/-- A move that was objected to, and the position in which it was made. -/
structure Offence where
  move : Move
  before : Piles
  violation : Violation
  deriving DecidableEq

/-- Makes the moves one after the other, up to the first offence. -/
def Columns.replay : Columns → List Move → Except Offence Columns
  | columns, [] => .ok columns
  | columns, move :: moves =>
    match columns.objection? move with
    | some violation => .error ⟨move, columns.piles, violation⟩
    | none => replay (columns.shift move.hop move.log) moves

namespace Columns

variable {columns : Columns} {move : Move} {moves : List Move} {violation : Violation}

@[simp]
theorem replay_nil (columns : Columns) : columns.replay [] = .ok columns := rfl

theorem replay_cons_of_none (accepted : columns.objection? move = none) :
    columns.replay (move :: moves) = replay (columns.shift move.hop move.log) moves := by
  simp [replay, accepted]

theorem replay_cons_of_some (refused : columns.objection? move = some violation) :
    columns.replay (move :: moves) = .error ⟨move, columns.piles, violation⟩ := by
  simp [replay, refused]

/-- Moves are replayed one part of the list after the other. -/
theorem replay_append (columns : Columns) (first second : List Move) :
    columns.replay (first ++ second) = (do
      let middle ← columns.replay first
      middle.replay second) := by
  induction first generalizing columns with
  | nil => rfl
  | cons move moves inductionHypothesis =>
      cases objection : columns.objection? move with
      | some violation => simp [replay, objection, bind, Except.bind]
      | none => simp [replay, objection, inductionHypothesis]

/-- Nothing is wrong with a move exactly when it takes the top log of another
pile and does not put it on a smaller one. -/
theorem objection?_eq_none_iff :
    columns.objection? move = none ↔
      move.source ≠ move.target ∧ columns.piles.top? move.source = some move.log ∧
        ∀ below, columns.piles.top? move.target = some below → move.log ≤ below := by
  rw [top?_piles, top?_piles]
  by_cases own : move.source = move.target
  · simp [objection?, own]
  · cases source : columns.last? move.source with
    | none => simp [objection?, own, source]
    | some top =>
        by_cases named : top = move.log
        · cases target : columns.last? move.target <;>
            simp [objection?, own, source, named, target]
        · simp [objection?, own, source, named]

end Columns

end LogPiles
