import Mathlib.Algebra.Ring.Nat
import LogPiles.Proofs.Run

/-!
# How long and how deep an agenda gets

A turn replaces one frame by up to three, so neither the length of an agenda nor
the sum of its counts goes down.  That the loop ends is due to an exponential
weight (`agendaTurns`), and the weight is exact: a loop that is not stopped takes
as many turns as the agenda weighs (`Drains.length_eq`).

The outcome of the loop says nothing about its turns, and a run that is stopped
says even less.  `Drains` is therefore the loop together with the agendas that it
finds at the beginning of its turns.  Every loop has them (`exists_drains`), and
what they lead to is the outcome of `drain` (`Drains.outcome_eq`).

The agenda stays short because a frame is the smaller the higher it lies.  Below a
frame of `count` logs there are never more than `2 * size - 2 * count` frames
(`Stacked`), and each part that replaces the frame trades the frames that come to
lie below it for a log less.
-/

namespace LogPiles

variable {σ : Type} {watch : Observer σ} {frame : Frame} {pending agenda : List Frame}
  {agendas : List (List Frame)} {run next : Run σ} {outcome : Except (Stop σ) (Run σ)}
  {size : Nat}

/-- The loop that carries out an agenda, with the agenda at the beginning of each turn.  A turn
takes one frame off, so there are as many of these agendas as frames that were taken. -/
inductive Drains (watch : Observer σ) :
    List Frame → Run σ → List (List Frame) → Except (Stop σ) (Run σ) → Prop where
  /-- Nothing is left to be carried out. -/
  | finished (run : Run σ) : Drains watch [] run [] (.ok run)
  /-- A move fails, and the rest of the agenda is left. -/
  | stopped {frame : Frame} {pending : List Frame} {run : Run σ} {stop : Stop σ}
      (failed : frame.turn watch pending run = .error stop) :
      Drains watch (frame :: pending) run [frame :: pending] (.error stop)
  /-- A turn is over, and another agenda is to be carried out. -/
  | turned {frame : Frame} {pending agenda : List Frame} {agendas : List (List Frame)}
      {run next : Run σ} {outcome : Except (Stop σ) (Run σ)}
      (turned : frame.turn watch pending run = .ok (agenda, next))
      (later : Drains watch agenda next agendas outcome) :
      Drains watch (frame :: pending) run ((frame :: pending) :: agendas) outcome

/-- Every loop comes to an end. -/
theorem exists_drains (watch : Observer σ) (agenda : List Frame) (run : Run σ) :
    ∃ agendas, Drains watch agenda run agendas (drain watch agenda run) := by
  fun_induction drain watch agenda run with
  | case1 run => exact ⟨[], .finished run⟩
  | case2 run frame pending stop failed => exact ⟨[frame :: pending], .stopped failed⟩
  | case3 run frame pending agenda next turned inductionHypothesis =>
      obtain ⟨agendas, later⟩ := inductionHypothesis
      exact ⟨(frame :: pending) :: agendas, .turned turned later⟩

theorem Frame.turns_eq (frame : Frame) :
    frame.turns = if frame.count = 0 then 1 else 3 * 2 ^ (frame.count - 1) - 2 := by
  obtain none | positive := Nat.eq_zero_or_pos frame.count
  · rw [if_pos none, turns, none]
  · rw [if_neg (Nat.ne_of_gt positive)]
    rfl

namespace Drains

theorem outcome_eq (drains : Drains watch agenda run agendas outcome) :
    outcome = drain watch agenda run := by
  induction drains with
  | finished run => exact (drain_nil watch run).symm
  | stopped failed =>
      rw [drain_cons, failed]
      rfl
  | turned turned _ inductionHypothesis =>
      rw [drain_cons, turned]
      exact inductionHypothesis

/-- A loop takes at most as many turns as its agenda weighs. -/
theorem length_le (drains : Drains watch agenda run agendas outcome) :
    agendas.length ≤ agendaTurns agenda := by
  induction drains with
  | finished run => exact Nat.zero_le _
  | @stopped frame pending run stop failed =>
      -- the weight of a frame is positive, whatever its count
      have positive : 1 ≤ Nat.pow 2 (frame.count - 1) := Nat.two_pow_pos _
      rw [List.length_singleton, agendaTurns_cons, Frame.turns]
      omega
  | turned turned _ inductionHypothesis =>
      have lighter := agendaTurns_turn turned
      rw [List.length_cons]
      omega

/-- A loop that comes to its end takes exactly as many turns. -/
theorem length_eq (drains : Drains watch agenda run agendas outcome)
    (ended : outcome = .ok next) : agendas.length = agendaTurns agenda := by
  induction drains with
  | finished run => rfl
  | stopped failed => cases ended
  | turned turned _ inductionHypothesis =>
      have lighter := agendaTurns_turn turned
      rw [List.length_cons, inductionHypothesis ended, lighter]

/-- What every turn keeps holds of all agendas of a loop. -/
theorem forall_agendas {Kept : List Frame → Prop} (drains : Drains watch agenda run agendas outcome)
    (keeps : ∀ frame pending agenda run next, Kept (frame :: pending) →
      frame.turn watch pending run = .ok (agenda, next) → Kept agenda)
    (kept : Kept agenda) : ∀ found ∈ agendas, Kept found := by
  induction drains with
  | finished run => exact List.forall_mem_nil _
  | stopped failed => exact List.forall_mem_singleton.2 kept
  | turned turned _ inductionHypothesis =>
      exact List.forall_mem_cons.2
        ⟨kept, inductionHypothesis (keeps _ _ _ _ _ kept turned)⟩

end Drains

/-! ## Depth -/

/-- A frame has the fewer frames below it the more logs it moves, and one that moves none lies
alone. -/
def Stacked (size : Nat) : List Frame → Prop
  | [] => True
  | frame :: pending =>
    (frame.count = 0 → pending = []) ∧ pending.length + 2 * frame.count ≤ 2 * size ∧
      Stacked size pending

theorem stacked_singleton (frame : Frame) : Stacked frame.count [frame] :=
  ⟨fun _ => rfl, by simp, trivial⟩

theorem Stacked.length_le (stacked : Stacked size agenda) :
    agenda.length ≤ max 1 (2 * size - 1) := by
  cases agenda with
  | nil => exact Nat.zero_le _
  | cons frame pending =>
      obtain ⟨alone, below, -⟩ := stacked
      obtain none | positive := Nat.eq_zero_or_pos frame.count
      · rw [alone none]
        exact Nat.le_max_left 1 _
      · rw [List.length_cons]
        omega

/-- The parts of a frame may take its place. -/
theorem Stacked.parts_append (stacked : Stacked size (frame :: pending))
    (several : 2 ≤ frame.count) : Stacked size (frame.parts ++ pending) := by
  obtain ⟨-, below, rest⟩ := stacked
  -- from the bottom up the parts have none, one and two frames more below them
  refine ⟨?_, ?_, ?_, ?_, ?_, ?_, rest⟩ <;>
    simp only [List.append_eq, List.nil_append, List.cons_append, List.length_cons] <;> omega

/-- A turn leaves an agenda stacked. -/
theorem Stacked.turn (stacked : Stacked size (frame :: pending))
    (turned : frame.turn watch pending run = .ok (agenda, next)) : Stacked size agenda := by
  obtain ⟨-, rfl⟩ | ⟨several, rfl⟩ := Frame.turn_eq_ok turned
  · exact stacked.2.2
  · exact stacked.parts_append several

/-- No agenda of a transfer holds more than twice as many frames as there are logs. -/
theorem Drains.depth_le (drains : Drains watch [frame] run agendas outcome) :
    ∀ found ∈ agendas, found.length ≤ max 1 (2 * frame.count - 1) := by
  intro found inside
  have stacked := drains.forall_agendas (fun _ _ _ _ _ => Stacked.turn)
    (stacked_singleton frame) found inside
  exact stacked.length_le

/-- Whatever the piles hold and whoever watches, the loop that solves a lair comes to an end, and
what it ends in is the outcome of the iterative strategy.  It takes no more than
`3 * 2 ^ (size - 1) - 2` frames off its agenda, or one if there is no log, and exactly as many where
no move fails.  The agenda never holds more than `2 * size - 1` frames, or one, so that the room
for `2 * size + 1` of them is enough. -/
theorem agenda_stays_within_reserve (watch : Observer σ) (seen : σ) (lair : Lair) :
    (∃ agendas, Drains watch [⟨.forest, .hideout, .base, lair.size⟩] ⟨lair, seen, 0⟩ agendas
      (Strategy.iterative.transfer watch lair.size ⟨lair, seen, 0⟩)) ∧
    ∀ agendas outcome,
      Drains watch [⟨.forest, .hideout, .base, lair.size⟩] ⟨lair, seen, 0⟩ agendas outcome →
        outcome = Strategy.iterative.transfer watch lair.size ⟨lair, seen, 0⟩ ∧
        agendas.length ≤ (if lair.size = 0 then 1 else 3 * 2 ^ (lair.size - 1) - 2) ∧
        ((∃ run, outcome = .ok run) →
          agendas.length = if lair.size = 0 then 1 else 3 * 2 ^ (lair.size - 1) - 2) ∧
        ∀ agenda ∈ agendas, agenda.length ≤ max 1 (2 * lair.size - 1) ∧
          agenda.length ≤ 2 * lair.size + 1 := by
  have weight : agendaTurns [⟨.forest, .hideout, .base, lair.size⟩] =
      if lair.size = 0 then 1 else 3 * 2 ^ (lair.size - 1) - 2 := by
    rw [agendaTurns_cons, agendaTurns_nil, Nat.add_zero, Frame.turns_eq]
  refine ⟨exists_drains watch _ _, ?_⟩
  intro agendas outcome drains
  rw [← weight]
  refine ⟨drains.outcome_eq, drains.length_le, ?_, ?_⟩
  · rintro ⟨run, ended⟩
    exact drains.length_eq ended
  · intro agenda inside
    have depth : agenda.length ≤ max 1 (2 * lair.size - 1) := drains.depth_le agenda inside
    exact ⟨depth, by omega⟩

/-- Two logs of which one is missing: the loop stops at the third frame of the four that it would
take off, with two frames left on its agenda. -/
theorem agenda_stays_within_reserve_short :
    ∃ agendas stop, Drains Observer.silent [⟨.forest, .hideout, .base, 2⟩]
        ⟨(Lair.fresh 2).arrange ⟨[1], [], []⟩, (), 0⟩ agendas (.error stop) ∧
      agendas.map List.length = [1, 3, 2] ∧
      agendas.length ≤ 3 * 2 ^ (2 - 1) - 2 ∧
      ∀ agenda ∈ agendas, agenda.length ≤ max 1 (2 * 2 - 1) := by
  have drains : Drains Observer.silent [⟨.forest, .hideout, .base, 2⟩]
      ⟨(Lair.fresh 2).arrange ⟨[1], [], []⟩, (), 0⟩ _ _ :=
    .turned rfl (.turned rfl (.stopped rfl))
  obtain ⟨-, bounds⟩ := agenda_stays_within_reserve Observer.silent ()
    ((Lair.fresh 2).arrange ⟨[1], [], []⟩)
  obtain ⟨-, short, -, shallow⟩ := bounds _ _ drains
  exact ⟨_, _, drains, rfl, short, fun agenda inside => (shallow agenda inside).1⟩

end LogPiles
