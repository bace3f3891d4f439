import LogPiles.Itinerary
import LogPiles.Observer
import LogPiles.Proofs.Shift

/-!
# The laws of a run

A run makes moves until one fails.  `Run.move_eq_ok_iff` is everything a single
move does and `Run.move_eq_error` every way it can fail; the rest of this file
goes from one move to a list of hops.  Both strategies follow the same list
(`Strategy.transfer_eq_follow`), so from here on no statement needs to know
which of them is at work.

A run and a path of the game are the same thing seen twice.  A run that came to
its end has followed a path of the game (`Run.follow?_of_follow`), and a path of
the game can be run as long as the observer accepts every move and the moves
have numbers (`Run.follow_of_follow?`).
-/

namespace LogPiles

variable {σ : Type} {watch : Observer σ} {hop : Hop} {hops : List Hop} {run next : Run σ}

/-- Hops from one site to another. -/
def Apart (hops : List Hop) : Prop := ∀ hop ∈ hops, hop.source ≠ hop.target

theorem apart_cons : Apart (hop :: hops) ↔ hop.source ≠ hop.target ∧ Apart hops := by
  simp [Apart]

/-- Three different sites are only ever joined by hops between different sites. -/
theorem apart_itinerary {source target spare : Site} (roles : Site.Roles source target spare)
    (count : Nat) : Apart (itinerary source target spare count) := by
  induction count generalizing source target spare with
  | zero => simp [Apart, itinerary]
  | succ count inductionHypothesis =>
      intro hop inside
      rw [itinerary, List.mem_append, List.mem_cons] at inside
      rcases inside with before | rfl | after
      · exact inductionHypothesis roles.aside hop before
      · exact roles.source_ne_target
      · exact inductionHypothesis roles.back hop after

/-- Both strategies make the hops of the itinerary. -/
theorem Strategy.transfer_eq_follow (strategy : Strategy) (watch : Observer σ) (count : Nat)
    (run : Run σ) :
    strategy.transfer watch count run =
      run.follow watch (itinerary .forest .hideout .base count) := by
  cases strategy with
  | recursive => exact LogPiles.transfer_eq_follow watch .forest .hideout .base count run
  | iterative =>
      rw [transfer, drain_eq_follow, agendaHops_cons, agendaHops_nil, List.append_nil]

namespace Run

/-- The run that is left, whether it came to its end or was stopped. -/
def left : Except (Stop σ) (Run σ) → Run σ
  | .ok run => run
  | .error stop => stop.run

@[simp]
theorem left_ok (run : Run σ) : left (.ok run) = run := rfl

@[simp]
theorem left_error (stop : Stop σ) : left (.error stop) = stop.run := rfl

/-- All that a move does. -/
theorem move_eq_ok_iff (apart : hop.source ≠ hop.target) :
    run.move watch hop = .ok next ↔
      ∃ log, run.lair.position.canHop hop = true ∧
        run.lair.position.top? hop.source = some log ∧
        next.lair = run.lair.arrange (run.lair.position.carry hop) ∧
        next.done = run.done + 1 ∧ next.done < moveLimit ∧
        watch ⟨next.done, log, hop.source, hop.target⟩ next.lair run.seen = .ok next.seen := by
  obtain ⟨lair, seen, done⟩ := next
  -- a move can fail in three places: the shift, the numbering and the observer
  cases shifted : run.lair.shift hop with
  | error cause =>
      simp only [move, shifted, reduceCtorEq, false_iff]
      rintro ⟨log, legal, top, -⟩
      rw [(Lair.shift_eq_ok_iff apart).2 ⟨legal, top, rfl⟩] at shifted
      cases shifted
  | ok moved =>
      obtain ⟨log, shown⟩ := moved
      obtain ⟨legal, top, rfl⟩ := (Lair.shift_eq_ok_iff apart).1 shifted
      by_cases room : run.done + 1 < moveLimit
      · cases answer : watch ⟨run.done + 1, log, hop.source, hop.target⟩
          (run.lair.arrange (run.lair.position.carry hop)) run.seen with
        | error breach =>
            simp only [move, shifted, room, answer, if_true, reduceCtorEq, false_iff]
            rintro ⟨other, -, top', rfl, rfl, -, accepted⟩
            obtain rfl := Option.some.inj (top.symm.trans top')
            rw [answer] at accepted
            cases accepted
        | ok seen' =>
            simp only [move, shifted, room, answer, if_true, Except.ok.injEq, Run.mk.injEq]
            constructor
            · rintro ⟨rfl, rfl, rfl⟩
              exact ⟨log, legal, top, rfl, rfl, room, answer⟩
            · rintro ⟨other, -, top', rfl, rfl, -, accepted⟩
              obtain rfl := Option.some.inj (top.symm.trans top')
              rw [answer] at accepted
              exact ⟨rfl, Except.ok.inj accepted, rfl⟩
      · simp only [move, shifted, room, if_false, reduceCtorEq, false_iff]
        rintro ⟨-, -, -, -, rfl, within, -⟩
        exact room within

/-- Every way in which a move can fail: there is no log, or the log does not fit, or no
number is left, or the observer refuses. -/
theorem move_eq_error {stop : Stop σ} (apart : hop.source ≠ hop.target)
    (failed : run.move watch hop = .error stop) :
    stop.run = run ∧
      ((∃ site, stop.cause = .error (.emptyPile site)) ∨
        (∃ log, stop.cause = .breach (.smallerBelow log)) ∨
        (stop.cause = .breach .stepOverflow ∧ moveLimit ≤ run.done + 1) ∨
        ∃ move shown breach, stop.cause = .breach breach ∧
          watch move shown run.seen = .error breach) := by
  cases shifted : run.lair.shift hop with
  | error cause =>
      simp only [move, shifted, Except.error.injEq] at failed
      subst failed
      rcases Lair.shift_eq_error apart shifted with rfl | ⟨log, rfl⟩
      · exact ⟨rfl, .inl ⟨_, rfl⟩⟩
      · exact ⟨rfl, .inr (.inl ⟨log, rfl⟩)⟩
  | ok moved =>
      obtain ⟨log, shown⟩ := moved
      by_cases room : run.done + 1 < moveLimit
      · cases answer : watch ⟨run.done + 1, log, hop.source, hop.target⟩ shown run.seen with
        | error breach =>
            simp only [move, shifted, room, answer, if_true, Except.error.injEq] at failed
            subst failed
            exact ⟨rfl, .inr (.inr (.inr ⟨_, shown, breach, rfl, answer⟩))⟩
        | ok seen => simp [move, shifted, room, answer] at failed
      · simp only [move, shifted, room, if_false, Except.error.injEq] at failed
        subst failed
        exact ⟨rfl, .inr (.inr (.inl ⟨rfl, Nat.le_of_not_lt room⟩))⟩

theorem follow_cons_of_ok (moved : run.move watch hop = .ok next) :
    run.follow watch (hop :: hops) = next.follow watch hops := by
  rw [follow_cons, moved]
  rfl

theorem follow_cons_of_error {stop : Stop σ} (failed : run.move watch hop = .error stop) :
    run.follow watch (hop :: hops) = .error stop := by
  rw [follow_cons, failed]
  rfl

/-- What every move keeps holds of the run that is left, also where it was stopped. -/
theorem follow_induction (Kept : Run σ → Prop) (apart : Apart hops)
    (keeps : ∀ run next hop, hop.source ≠ hop.target → Kept run →
      run.move watch hop = .ok next → Kept next) (kept : Kept run) :
    Kept (left (run.follow watch hops)) := by
  induction hops generalizing run with
  | nil => exact kept
  | cons hop hops inductionHypothesis =>
      obtain ⟨first, rest⟩ := apart_cons.1 apart
      cases moved : run.move watch hop with
      | error stop =>
          rw [follow_cons_of_error moved, left_error, (move_eq_error first moved).1]
          exact kept
      | ok next =>
          rw [follow_cons_of_ok moved]
          exact inductionHypothesis rest (keeps run next hop first kept moved)

/-- A run changes nothing of its lair but the logs on the piles. -/
theorem exists_arrange_left (watch : Observer σ) (apart : Apart hops) (run : Run σ) :
    ∃ position, (left (run.follow watch hops)).lair = run.lair.arrange position := by
  refine follow_induction (fun later => ∃ position, later.lair = run.lair.arrange position)
    apart ?_ ⟨run.lair.position, rfl⟩
  rintro earlier later hop first ⟨position, same⟩ moved
  obtain ⟨log, -, -, shifted, -⟩ := (move_eq_ok_iff first).1 moved
  rw [shifted, same, Lair.arrange_arrange]
  exact ⟨_, rfl⟩

/-- A run that came to its end has followed a path of the game. -/
theorem follow?_of_follow (apart : Apart hops) (followed : run.follow watch hops = .ok next) :
    run.lair.position.follow? hops = some next.lair.position ∧
      next.lair = run.lair.arrange next.lair.position ∧
      next.done = run.done + hops.length := by
  induction hops generalizing run with
  | nil =>
      cases followed
      exact ⟨rfl, rfl, rfl⟩
  | cons hop hops inductionHypothesis =>
      obtain ⟨first, rest⟩ := apart_cons.1 apart
      cases moved : run.move watch hop with
      | error stop =>
          rw [follow_cons_of_error moved] at followed
          cases followed
      | ok middle =>
          rw [follow_cons_of_ok moved] at followed
          obtain ⟨path, lair, done⟩ := inductionHypothesis rest followed
          obtain ⟨log, legal, -, moved_lair, moved_done, -⟩ := (move_eq_ok_iff first).1 moved
          have step : run.lair.position.next? hop = some middle.lair.position := by
            rw [Piles.next?_eq_some_iff, moved_lair]
            exact ⟨legal, rfl⟩
          refine ⟨?_, ?_, ?_⟩
          · rw [Piles.follow?_cons, step, Option.bind_some, path]
          · rw [lair, moved_lair, Lair.arrange_arrange, Lair.position_arrange]
          · rw [done, moved_done, List.length_cons]
            omega

/-- A path of the game can be run while there are numbers for its moves and the
observer accepts them. -/
theorem follow_of_follow? (total : Observer.Total watch) {position : Piles}
    (path : run.lair.position.follow? hops = some position)
    (room : run.done + hops.length < moveLimit) :
    ∃ seen, run.follow watch hops =
      .ok ⟨run.lair.arrange position, seen, run.done + hops.length⟩ := by
  induction hops generalizing run with
  | nil =>
      cases path
      exact ⟨run.seen, rfl⟩
  | cons hop hops inductionHypothesis =>
      rw [Piles.follow?_cons] at path
      obtain ⟨middle, step, rest⟩ := Option.bind_eq_some_iff.1 path
      obtain ⟨legal, rfl⟩ := Piles.next?_eq_some_iff.1 step
      obtain ⟨apart, log, top, -⟩ := Piles.canHop_iff.1 legal
      rw [List.length_cons] at room
      have numbered : run.done + 1 < moveLimit := by omega
      have later : run.done + 1 + hops.length < moveLimit := by omega
      obtain ⟨seen, accepted⟩ := total ⟨run.done + 1, log, hop.source, hop.target⟩
        (run.lair.arrange (run.lair.position.carry hop)) run.seen
      have moved : run.move watch hop =
          .ok ⟨run.lair.arrange (run.lair.position.carry hop), seen, run.done + 1⟩ :=
        (move_eq_ok_iff apart).2 ⟨log, legal, top, rfl, rfl, numbered, accepted⟩
      obtain ⟨last, followed⟩ := @inductionHypothesis
        ⟨run.lair.arrange (run.lair.position.carry hop), seen, run.done + 1⟩ rest later
      refine ⟨last, ?_⟩
      rw [follow_cons_of_ok moved, followed, List.length_cons, Lair.arrange_arrange,
        Nat.add_right_comm, Nat.add_assoc]

/-- With an observer that accepts every move, and numbers for all of them, a run is
stopped only by a pile without logs or by a log that does not fit. -/
theorem follow_eq_error {stop : Stop σ} (total : Observer.Total watch) (apart : Apart hops)
    (room : run.done + hops.length < moveLimit)
    (stopped : run.follow watch hops = .error stop) :
    (∃ site, stop.cause = .error (.emptyPile site)) ∨
      ∃ log, stop.cause = .breach (.smallerBelow log) := by
  induction hops generalizing run with
  | nil => cases stopped
  | cons hop hops inductionHypothesis =>
      obtain ⟨first, rest⟩ := apart_cons.1 apart
      rw [List.length_cons] at room
      cases moved : run.move watch hop with
      | error cause =>
          rw [follow_cons_of_error moved] at stopped
          cases stopped
          obtain ⟨-, empty | small | ⟨-, full⟩ | ⟨move, shown, breach, -, refused⟩⟩ :=
            move_eq_error first moved
          · exact .inl empty
          · exact .inr small
          · omega
          · obtain ⟨seen, accepted⟩ := total move shown run.seen
            rw [accepted] at refused
            cases refused
      | ok next =>
          rw [follow_cons_of_ok moved] at stopped
          obtain ⟨-, -, -, -, done, -⟩ := (move_eq_ok_iff first).1 moved
          exact inductionHypothesis rest (by rw [done]; omega) stopped

end Run

end LogPiles
