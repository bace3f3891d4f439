import LogPiles.Error
import LogPiles.Text.Layout

/-!
# Counterexamples

A counterexample lists snapshots of the states that led to a violation, and
names the seed where the run was random.  Its diagram shows the snapshots one
below the other.  Every line of the diagram shows by its first characters what
it is: a seed, the head of a snapshot, a variable, or part of an arrow.
-/

namespace LogPiles

open Text

/-- A state on the way to a violation. -/
structure Snapshot where
  /-- Number of moves made so far. -/
  step : Nat
  description : String
  /-- Names and values. -/
  bindings : List (String × String)
  deriving DecidableEq

/-- The states that led to a violation. -/
structure Counterexample where
  /-- The seed of a random run. -/
  seed? : Option UInt64 := none
  snapshots : List Snapshot := []
  deriving DecidableEq

/-- The line for one variable. -/
def Snapshot.variableLine (entry : String × String) : List Char :=
  blanks 4 ++ entry.1.toList ++ " = ".toList ++ entry.2.toList

/-- The head of a snapshot. -/
def Snapshot.head (snapshot : Snapshot) : List Char :=
  "[step ".toList ++ decimal snapshot.step ++ "] ".toList ++ snapshot.description.toList

/-- The lines of a snapshot. -/
def Snapshot.lines (snapshot : Snapshot) : List (List Char) :=
  snapshot.head :: snapshot.bindings.map Snapshot.variableLine

namespace Counterexample

/-- No state yet, in a run with this seed or in one that was not random. -/
def ofSeed? (seed? : Option UInt64) : Counterexample := ⟨seed?, []⟩

/-- Adds a state that is not earlier than the last one. -/
def add (snapshot : Snapshot) (counterexample : Counterexample) :
    Except Breach Counterexample :=
  if counterexample.snapshots.getLast?.all (·.step ≤ snapshot.step) then
    .ok { counterexample with snapshots := counterexample.snapshots ++ [snapshot] }
  else
    .error .snapshotOutOfOrder

/-- Whether there is no state. -/
def isEmpty (counterexample : Counterexample) : Bool := counterexample.snapshots.isEmpty

/-- The arrow from one state to the next. -/
def arrow : List (List Char) := ["     |".toList, "     v".toList]

/-- The lines of a list of states, with arrows between them. -/
def trace : List Snapshot → List (List Char)
  | [] => []
  | [last] => last.lines
  | snapshot :: next :: rest => snapshot.lines ++ arrow ++ trace (next :: rest)

/-- The line that names the seed. -/
def seedLine (seed : UInt64) : List Char := "DST_SEED=".toList ++ decimal seed.toNat

/-- The lines of the diagram. -/
def lines (counterexample : Counterexample) : List (List Char) :=
  counterexample.seed?.toList.map seedLine ++ trace counterexample.snapshots

/-- The diagram of a counterexample. -/
def diagram (counterexample : Counterexample) : String :=
  String.ofList (unlines counterexample.lines)

theorem add_eq_ok_iff {snapshot : Snapshot} {counterexample next : Counterexample} :
    counterexample.add snapshot = .ok next ↔
      (∀ last ∈ counterexample.snapshots.getLast?, last.step ≤ snapshot.step) ∧
        next = ⟨counterexample.seed?, counterexample.snapshots ++ [snapshot]⟩ := by
  by_cases ordered : counterexample.snapshots.getLast?.all (·.step ≤ snapshot.step) = true
  · simp only [add, ordered, if_true, Except.ok.injEq]
    simp only [Option.all_eq_true, decide_eq_true_eq] at ordered
    exact ⟨fun same => ⟨ordered, same.symm⟩, fun same => same.2.symm⟩
  · simp only [add, ordered, Bool.false_eq_true, if_false, reduceCtorEq, false_iff]
    simp only [Option.all_eq_true, decide_eq_true_eq] at ordered
    exact fun both => ordered both.1

end Counterexample

end LogPiles
