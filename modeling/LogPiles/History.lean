import LogPiles.Move

/-!
# Histories

A history lists the moves of a run in the order in which they were made.  Moves
that arrive with a number are taken in by `push`, which insists on the next
number; `record` numbers a move itself.  A history built by these two is
numbered `1, 2, 3, …`, which `Numbered` says and the last lemmas show.  The list
of moves itself is open, so a history that was put together by hand need not be
numbered.
-/

namespace LogPiles

/-- Moves in the order in which they were made. -/
structure History where
  moves : Array Move := #[]
  deriving DecidableEq

namespace History

/-- No move yet. -/
def empty : History := {}

/-- The history of these moves. -/
def ofList (moves : List Move) : History := ⟨moves.toArray⟩

/-- The moves as a list, the first move first. -/
def toList (history : History) : List Move := history.moves.toList

/-- Number of moves. -/
def length (history : History) : Nat := history.moves.size

/-- Takes in a move that carries the next number. -/
def push (move : Move) (history : History) : Except Breach History :=
  if move.step = 0 then
    .error .stepNotPositive
  else if move.step = history.length + 1 then
    .ok ⟨history.moves.push move⟩
  else
    .error (.stepOutOfOrder move.step (history.length + 1))

/-- Adds a hop of a log as the next move, and tells which move it became. -/
def record (log : Log) (hop : Hop) (history : History) : Move × History :=
  let move : Move := ⟨history.length + 1, log, hop.source, hop.target⟩
  (move, ⟨history.moves.push move⟩)

/-- Keeps the first moves only. -/
def take (count : Nat) (history : History) : History := ⟨history.moves.take count⟩

/-- The moves from `first` on are numbered without gaps. -/
def NumberedFrom (first : Nat) : List Move → Prop
  | [] => True
  | move :: rest => move.step = first ∧ NumberedFrom (first + 1) rest

/-- The moves are numbered `1, 2, 3, …`. -/
def Numbered (history : History) : Prop := NumberedFrom 1 history.toList

@[simp]
theorem length_toList (history : History) : history.toList.length = history.length := by
  simp [toList, length]

theorem toList_push {move : Move} {history next : History}
    (taken : history.push move = .ok next) :
    move.step = history.length + 1 ∧ next.toList = history.toList ++ [move] := by
  unfold push at taken
  split at taken
  · cases taken
  · split at taken
    · cases taken
      exact ⟨‹_›, by simp [toList]⟩
    · cases taken

/-- The next number is accepted. -/
theorem push_next {move : Move} {history : History}
    (next : move.step = history.length + 1) :
    history.push move = .ok ⟨history.moves.push move⟩ := by
  simp [push, next]

@[simp]
theorem toList_record (log : Log) (hop : Hop) (history : History) :
    (history.record log hop).2.toList =
      history.toList ++ [⟨history.length + 1, log, hop.source, hop.target⟩] := by
  simp [record, toList]

@[simp]
theorem toList_take (count : Nat) (history : History) :
    (history.take count).toList = history.toList.take count := by
  simp [take, toList]

theorem numberedFrom_append {first : Nat} {moves more : List Move} :
    NumberedFrom first (moves ++ more) ↔
      NumberedFrom first moves ∧ NumberedFrom (first + moves.length) more := by
  induction moves generalizing first with
  | nil => simp [NumberedFrom]
  | cons move moves inductionHypothesis =>
      simp only [List.cons_append, NumberedFrom, inductionHypothesis, List.length_cons, and_assoc]
      rw [show first + 1 + moves.length = first + (moves.length + 1) by omega]

theorem numbered_empty : empty.Numbered := trivial

/-- Taking in a move keeps the numbering. -/
theorem Numbered.push {move : Move} {history next : History} (numbered : history.Numbered)
    (taken : history.push move = .ok next) : next.Numbered := by
  obtain ⟨step, moves⟩ := toList_push taken
  rw [Numbered, moves, numberedFrom_append]
  exact ⟨numbered, by simp [step, Nat.add_comm], trivial⟩

/-- Recording a move keeps the numbering. -/
theorem Numbered.record {history : History} (numbered : history.Numbered) (log : Log) (hop : Hop) :
    (history.record log hop).2.Numbered := by
  rw [Numbered, toList_record, numberedFrom_append]
  exact ⟨numbered, by simp [Nat.add_comm], trivial⟩

/-- The first moves of a numbered history are numbered. -/
theorem Numbered.take {history : History} (numbered : history.Numbered) (count : Nat) :
    (history.take count).Numbered := by
  rw [Numbered, toList_take]
  rw [Numbered, ← List.take_append_drop count history.toList, numberedFrom_append] at numbered
  exact numbered.1

/-- In a numbered history a move has the number of its place. -/
theorem Numbered.step_eq {history : History} (numbered : history.Numbered)
    {before later : List Move} {move : Move} (split : history.toList = before ++ move :: later) :
    move.step = before.length + 1 := by
  rw [Numbered, split, numberedFrom_append] at numbered
  rw [numbered.2.1, Nat.add_comm]

theorem Numbered.positive {history : History} (numbered : history.Numbered) :
    ∀ move ∈ history.toList, 0 < move.step := by
  intro move inside
  obtain ⟨before, later, split⟩ := List.append_of_mem inside
  rw [numbered.step_eq split]
  exact Nat.succ_pos before.length

end History

end LogPiles
