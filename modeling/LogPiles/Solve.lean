import LogPiles.Lair

/-!
# Solving a lair

To bring `n + 1` logs to a site, bring `n` of them to the spare site, move the
largest, and bring the `n` on top of it.  `transfer` is this rule as a
recursion, and `drain` carries it out on an agenda of pending transfers, taking
one off at a time.  Both make their moves with `Run.move` only, which hands
every move to an observer together with the lair as the move left it.

A move that finds its pile empty ends the run with an error, and what was done
up to there stays done.  The two strategies agree on that too, because they
make the same moves in the same order.
-/

namespace LogPiles

/-- Watches a run: takes in each move and the lair right after it. -/
abbrev Observer (σ : Type) := Move → Lair → σ → Except Breach σ

/-- A run in progress: the lair, what the observer has seen, and how many moves
were made. -/
structure Run (σ : Type) where
  lair : Lair
  seen : σ
  done : Nat

/-- How a run ends early: the cause, and the run before the move that failed. -/
structure Stop (σ : Type) where
  cause : Halt
  run : Run σ

variable {σ : Type}

/-- Makes one move and shows it to the observer. -/
def Run.move (watch : Observer σ) (hop : Hop) (run : Run σ) : Except (Stop σ) (Run σ) :=
  match run.lair.shift hop with
  | .error cause => .error ⟨cause, run⟩
  | .ok (log, lair) =>
    let step := run.done + 1
    if step < moveLimit then
      match watch ⟨step, log, hop.source, hop.target⟩ lair run.seen with
      | .error breach => .error ⟨.breach breach, run⟩
      | .ok seen => .ok ⟨lair, seen, step⟩
    else
      .error ⟨.breach .stepOverflow, run⟩

/-- Brings the top `count` logs of `source` to `target`. -/
def transfer (watch : Observer σ) (source target spare : Site) :
    Nat → Run σ → Except (Stop σ) (Run σ)
  | 0, run => .ok run
  | 1, run => run.move watch ⟨source, target⟩
  | count + 2, run => do
    let run ← transfer watch source spare target (count + 1) run
    let run ← run.move watch ⟨source, target⟩
    transfer watch spare target source (count + 1) run

/-- A transfer that is still to be carried out. -/
structure Frame where
  source : Site
  target : Site
  spare : Site
  count : Nat
  deriving DecidableEq

namespace Frame

/-- How many frames are taken off an agenda until this one is carried out. -/
def turns (frame : Frame) : Nat := 3 * Nat.pow 2 (frame.count - 1) - 2

/-- The three transfers that make up one of two logs or more, in the order in
which they are carried out. -/
def parts (frame : Frame) : List Frame :=
  [⟨frame.source, frame.spare, frame.target, frame.count - 1⟩,
    { frame with count := 1 },
    ⟨frame.spare, frame.target, frame.source, frame.count - 1⟩]

/-- Carries out the first frame of an agenda, whose rest is given, or replaces
it by its parts. -/
def turn (watch : Observer σ) (frame : Frame) (pending : List Frame) (run : Run σ) :
    Except (Stop σ) (List Frame × Run σ) :=
  match frame.count with
  | 0 => .ok (pending, run)
  | 1 => (run.move watch ⟨frame.source, frame.target⟩).map (pending, ·)
  | _ + 2 => .ok (frame.parts ++ pending, run)

end Frame

/-- How many turns an agenda takes. -/
def agendaTurns : List Frame → Nat
  | [] => 0
  | frame :: agenda => frame.turns + agendaTurns agenda

@[simp]
theorem agendaTurns_nil : agendaTurns [] = 0 := rfl

@[simp]
theorem agendaTurns_cons (frame : Frame) (agenda : List Frame) :
    agendaTurns (frame :: agenda) = frame.turns + agendaTurns agenda := rfl

/-- A turn leaves the rest of the agenda, or the parts of its frame before the rest. -/
theorem Frame.turn_eq_ok {watch : Observer σ} {frame : Frame} {pending agenda : List Frame}
    {run next : Run σ} (turned : frame.turn watch pending run = .ok (agenda, next)) :
    (frame.count ≤ 1 ∧ agenda = pending) ∨ (2 ≤ frame.count ∧ agenda = frame.parts ++ pending) := by
  obtain ⟨source, target, spare, count⟩ := frame
  match count with
  | 0 =>
    cases turned
    exact .inl ⟨Nat.zero_le 1, rfl⟩
  | 1 =>
    cases moved : run.move watch ⟨source, target⟩ with
    | error stop => simp [turn, moved, Except.map] at turned
    | ok after =>
      simp only [turn, moved, Except.map, Except.ok.injEq, Prod.mk.injEq] at turned
      exact .inl ⟨Nat.le_refl 1, turned.1.symm⟩
  | count + 2 =>
    cases turned
    exact .inr ⟨Nat.le_add_left 2 count, rfl⟩

/-- A frame takes a turn and the turns of its parts. -/
theorem Frame.turns_parts {frame : Frame} (several : 2 ≤ frame.count) :
    agendaTurns frame.parts + 1 = frame.turns := by
  obtain ⟨count, counted⟩ : ∃ count, frame.count = count + 2 := ⟨frame.count - 2, by omega⟩
  have positive : 0 < Nat.pow 2 count := Nat.two_pow_pos count
  have double : Nat.pow 2 (count + 1) = Nat.pow 2 count * 2 := rfl
  have single : Nat.pow 2 0 = 1 := rfl
  simp only [parts, agendaTurns_cons, agendaTurns_nil, turns, counted, Nat.add_sub_cancel,
    show count + 2 - 1 = count + 1 by omega, Nat.sub_self, double, single]
  omega

theorem agendaTurns_append (first second : List Frame) :
    agendaTurns (first ++ second) = agendaTurns first + agendaTurns second := by
  induction first with
  | nil => simp
  | cons frame first inductionHypothesis =>
      rw [List.cons_append, agendaTurns_cons, agendaTurns_cons, inductionHypothesis,
        Nat.add_assoc]

/-- Each turn leaves one turn less. -/
theorem agendaTurns_turn {watch : Observer σ} {frame : Frame} {pending agenda : List Frame}
    {run next : Run σ} (turned : frame.turn watch pending run = .ok (agenda, next)) :
    agendaTurns agenda + 1 = agendaTurns (frame :: pending) := by
  obtain ⟨single, rfl⟩ | ⟨several, rfl⟩ := Frame.turn_eq_ok turned
  · have once : frame.turns = 1 := by rw [Frame.turns, Nat.sub_eq_zero_of_le single]
    rw [agendaTurns_cons, once, Nat.add_comm]
  · rw [agendaTurns_append, agendaTurns_cons, ← Frame.turns_parts several]
    omega

/-- Carries out an agenda, one frame at a time. -/
def drain (watch : Observer σ) (agenda : List Frame) (run : Run σ) :
    Except (Stop σ) (Run σ) :=
  match agenda with
  | [] => .ok run
  | frame :: pending =>
    match _turned : frame.turn watch pending run with
    | .error stop => .error stop
    | .ok (agenda, run) => drain watch agenda run
termination_by agendaTurns agenda
decreasing_by
  have := agendaTurns_turn _turned
  omega

/-- How a transfer is carried out. -/
inductive Strategy where
  /-- By recursion on the number of logs. -/
  | recursive
  /-- By an agenda of pending transfers. -/
  | iterative
  deriving DecidableEq

/-- The recursion is used where no strategy is named. -/
instance : Inhabited Strategy := ⟨.recursive⟩

/-- The name of a strategy. -/
def Strategy.label : Strategy → String
  | .recursive => "recursive"
  | .iterative => "iterative"

/-- Brings `count` logs from the forest to the hideout. -/
def Strategy.transfer (watch : Observer σ) (count : Nat) :
    Strategy → Run σ → Except (Stop σ) (Run σ)
  | .recursive => LogPiles.transfer watch .forest .hideout .base count
  | .iterative => drain watch [⟨.forest, .hideout, .base, count⟩]

/-- What an attempt to solve a lair leaves: its answer, the lair, and what the
observer has seen. -/
structure Attempt (σ : Type) where
  answer : Except LairError Nat
  lair : Lair
  seen : σ

/-- Marks the lair as solved by a run that came to its end.  Such a run has made
the least number of moves and has lost no log; anything else is a breach. -/
def Run.finish (run : Run σ) : Except Breach (Attempt σ) :=
  match optimalMoves run.lair.size with
  | .error breach => .error breach
  | .ok least =>
    if run.done ≠ least then
      .error (.countsDiffer run.done least)
    else if run.lair.count ≠ run.lair.size then
      .error (.countsDiffer run.lair.count run.lair.size)
    else
      .ok ⟨.ok run.done, { run.lair with moves := run.done, solved := true }, run.seen⟩

/-- What is left of a run: the attempt that it was, or the breach that ended it. -/
def Run.conclude : Except (Stop σ) (Run σ) → Except Breach (Attempt σ)
  | .ok run => run.finish
  | .error ⟨.error error, run⟩ => .ok ⟨.error error, run.lair, run.seen⟩
  | .error ⟨.breach breach, _⟩ => .error breach

/-- Solves a lair that is not solved yet and answers with the number of moves.
The transfer always starts in the forest and with the full size, whatever the
piles hold. -/
def Lair.solve (strategy : Strategy) (watch : Observer σ) (seen : σ) (lair : Lair) :
    Except Breach (Attempt σ) :=
  if lair.solved then
    .ok ⟨.error .alreadySolved, lair, seen⟩
  else
    Run.conclude (strategy.transfer watch lair.size ⟨lair, seen, 0⟩)

/-- A single log is no special case: there is nothing to bring to the spare site and back. -/
theorem transfer_succ (watch : Observer σ) (source target spare : Site) (count : Nat)
    (run : Run σ) :
    transfer watch source target spare (count + 1) run = (do
      let run ← transfer watch source spare target count run
      let run ← run.move watch ⟨source, target⟩
      transfer watch spare target source count run) := by
  cases count with
  | zero =>
      simp only [transfer, bind, Except.bind]
      cases run.move watch ⟨source, target⟩ <;> rfl
  | succ count => rfl

theorem drain_nil (watch : Observer σ) (run : Run σ) : drain watch [] run = .ok run := by
  rw [drain]

theorem drain_cons (watch : Observer σ) (frame : Frame) (pending : List Frame) (run : Run σ) :
    drain watch (frame :: pending) run = (do
      let (agenda, run) ← frame.turn watch pending run
      drain watch agenda run) := by
  rw [drain]
  cases turned : frame.turn watch pending run <;> rfl

end LogPiles
