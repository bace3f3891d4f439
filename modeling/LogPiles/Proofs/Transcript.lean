import LogPiles.Proofs.Run

/-!
# Transcripts

What an observer is told during a run is a list of calls, each with a move and
the lair right after it.  A run that ends in a breach gives no state back, so
the list cannot be read off its outcome.  Here it is read off the same run with
another observer: `Observer.transcribed watch` writes down every call that
`watch` would get, plays `watch` along, and never refuses, so that it is still
there at the end to tell.  Once `watch` has refused a move nothing more is
written down.

`Run.follow_transcribed` says that this is no invention.  A run watched by
`watch` is the transcribed run with the notes dropped, or it is ended by the
refusal that the transcript names; and `Lair.solve_eq_of_transcript` is the same
law for solving a lair.

`strategies_indistinguishable` compares the two strategies by what they tell:
whatever the piles hold and whoever watches, the calls are the same and so is
the end.
-/

namespace LogPiles

variable {σ : Type}

/-- The calls that an observer gets, what it makes of them, and the breach with
which it refuses the last of them. -/
structure Transcript (σ : Type) where
  calls : List (Move × Lair)
  seen : σ
  refusal : Option Breach

/-- Nobody has been called yet. -/
def Transcript.blank (seen : σ) : Transcript σ := ⟨[], seen, none⟩

/-- The moves that were told, in their order. -/
def Transcript.moves (transcript : Transcript σ) : List Move := transcript.calls.map Prod.fst

/-- Writes down the calls of an observer until it refuses one, and refuses none. -/
def Observer.transcribed (watch : Observer σ) : Observer (Transcript σ) :=
  fun move lair transcript =>
    match transcript.refusal with
    | some _ => .ok transcript
    | none =>
      let calls := transcript.calls ++ [(move, lair)]
      match watch move lair transcript.seen with
      | .ok seen => .ok ⟨calls, seen, none⟩
      | .error breach => .ok ⟨calls, transcript.seen, some breach⟩

/-- What the observer is told when the lair is solved with this strategy, up to the
end of the run, however it ends. -/
def Lair.transcript (strategy : Strategy) (watch : Observer σ) (seen : σ) (lair : Lair) :
    Transcript σ :=
  if lair.solved then .blank seen
  else (Run.left (strategy.transfer watch.transcribed lair.size ⟨lair, .blank seen, 0⟩)).seen

namespace Observer

theorem total_transcribed (watch : Observer σ) : Total watch.transcribed := by
  intro move lair transcript
  unfold transcribed
  split
  · exact ⟨_, rfl⟩
  · split <;> exact ⟨_, rfl⟩

theorem transcribed_of_refused {watch : Observer σ} {transcript : Transcript σ}
    (refused : transcript.refusal.isSome) (move : Move) (lair : Lair) :
    watch.transcribed move lair transcript = .ok transcript := by
  obtain ⟨breach, named⟩ := Option.isSome_iff_exists.1 refused
  simp [transcribed, named]

theorem transcribed_of_ok {watch : Observer σ} {transcript : Transcript σ} {move : Move}
    {lair : Lair} {seen : σ} (listening : transcript.refusal = none)
    (accepted : watch move lair transcript.seen = .ok seen) :
    watch.transcribed move lair transcript =
      .ok ⟨transcript.calls ++ [(move, lair)], seen, none⟩ := by
  simp [transcribed, listening, accepted]

theorem transcribed_of_error {watch : Observer σ} {transcript : Transcript σ} {move : Move}
    {lair : Lair} {breach : Breach} (listening : transcript.refusal = none)
    (refused : watch move lair transcript.seen = .error breach) :
    watch.transcribed move lair transcript =
      .ok ⟨transcript.calls ++ [(move, lair)], transcript.seen, some breach⟩ := by
  simp [transcribed, listening, refused]

end Observer

namespace Run

/-- The run without the notes. -/
def plain (run : Run (Transcript σ)) : Run σ := ⟨run.lair, run.seen.seen, run.done⟩

/-- The outcome without the notes. -/
def plainOutcome : Except (Stop (Transcript σ)) (Run (Transcript σ)) → Except (Stop σ) (Run σ)
  | .ok run => .ok run.plain
  | .error stop => .error ⟨stop.cause, stop.run.plain⟩

variable {watch : Observer σ} {hop : Hop} {hops : List Hop} {run next : Run (Transcript σ)}

/-- After a refusal the notes stay as they are. -/
theorem seen_left_of_refused (apart : Apart hops) (refused : run.seen.refusal.isSome) :
    (left (run.follow watch.transcribed hops)).seen = run.seen := by
  refine follow_induction (fun later => later.seen = run.seen) apart ?_ rfl
  intro earlier later hop first same moved
  obtain ⟨log, -, -, -, -, -, written⟩ := (move_eq_ok_iff first).1 moved
  rw [Observer.transcribed_of_refused (same ▸ refused)] at written
  rw [← Except.ok.inj written, same]

/-- An observer that still listens at the end has listened from the beginning. -/
theorem listening_of_left (apart : Apart hops)
    (listening : (left (run.follow watch.transcribed hops)).seen.refusal = none) :
    run.seen.refusal = none := by
  cases refusal : run.seen.refusal with
  | none => rfl
  | some breach =>
      rw [seen_left_of_refused apart (by simp [refusal]), refusal] at listening
      cases listening

/-- One move, told to an observer and told to its transcriber. -/
theorem move_transcribed (apart : hop.source ≠ hop.target)
    (listening : run.seen.refusal = none)
    (moved : run.move watch.transcribed hop = .ok next) :
    match next.seen.refusal with
    | none => run.plain.move watch hop = .ok next.plain
    | some breach => run.plain.move watch hop = .error ⟨.breach breach, run.plain⟩ := by
  obtain ⟨log, legal, top, lair, done, room, written⟩ := (move_eq_ok_iff apart).1 moved
  cases answer : watch ⟨next.done, log, hop.source, hop.target⟩ next.lair run.seen.seen with
  | ok seen =>
      rw [Observer.transcribed_of_ok listening answer] at written
      rw [← Except.ok.inj written]
      refine (move_eq_ok_iff apart).2 ⟨log, legal, top, lair, done, room, ?_⟩
      rw [plain, plain, answer, ← Except.ok.inj written]
  | error breach =>
      rw [Observer.transcribed_of_error listening answer] at written
      rw [← Except.ok.inj written]
      have shifted : run.lair.shift hop = .ok (log, next.lair) :=
        (Lair.shift_eq_ok_iff apart).2 ⟨legal, top, lair⟩
      rw [done] at room answer
      simp only [move, plain, shifted, room, answer, if_true]

/-- A failure that is not the observer's is the same with and without notes. -/
theorem plain_move_of_error {stop : Stop (Transcript σ)} (apart : hop.source ≠ hop.target)
    (failed : run.move watch.transcribed hop = .error stop) :
    stop.run = run ∧ run.plain.move watch hop = .error ⟨stop.cause, run.plain⟩ := by
  refine ⟨(move_eq_error apart failed).1, ?_⟩
  cases shifted : run.lair.shift hop with
  | error cause =>
      simp only [move, shifted, Except.error.injEq] at failed
      subst failed
      simp only [move, plain, shifted]
  | ok moved =>
      by_cases room : run.done + 1 < moveLimit
      · obtain ⟨written, accepted⟩ := watch.total_transcribed
          ⟨run.done + 1, moved.1, hop.source, hop.target⟩ moved.2 run.seen
        simp [move, shifted, room, accepted] at failed
      · simp only [move, shifted, room, if_false, Except.error.injEq] at failed
        subst failed
        simp only [move, plain, shifted, room, if_false]

/-- A run is its transcribed run without the notes, or the refusal in them ends it. -/
theorem follow_transcribed (watch : Observer σ) (apart : Apart hops)
    (listening : run.seen.refusal = none) :
    match (left (run.follow watch.transcribed hops)).seen.refusal with
    | none => run.plain.follow watch hops = plainOutcome (run.follow watch.transcribed hops)
    | some breach => ∃ last, run.plain.follow watch hops = .error ⟨.breach breach, last⟩ := by
  induction hops generalizing run with
  | nil => simp [listening, plainOutcome]
  | cons hop hops inductionHypothesis =>
      obtain ⟨first, rest⟩ := apart_cons.1 apart
      cases moved : run.move watch.transcribed hop with
      | error stop =>
          obtain ⟨same, failed⟩ := plain_move_of_error first moved
          rw [follow_cons_of_error moved, left_error, same, listening]
          simp only
          rw [follow_cons_of_error failed, plainOutcome, same]
      | ok next =>
          have told := move_transcribed first listening moved
          rw [follow_cons_of_ok moved]
          cases refusal : next.seen.refusal with
          | none =>
              simp only [refusal] at told
              rw [follow_cons_of_ok told]
              exact inductionHypothesis rest refusal
          | some breach =>
              -- the run is over, while its transcribed copy goes on without taking notes
              simp only [refusal] at told
              rw [seen_left_of_refused rest (by simp [refusal]), refusal]
              exact ⟨_, follow_cons_of_error told⟩

end Run

/-- The attempt without the notes. -/
def Attempt.plain (attempt : Attempt (Transcript σ)) : Attempt σ :=
  ⟨attempt.answer, attempt.lair, attempt.seen.seen⟩

theorem apart_script (count : Nat) : Apart (itinerary .forest .hideout .base count) :=
  apart_itinerary Site.roles_solve count

/-- Finishing a run does not look at what was seen. -/
theorem Run.finish_plain (run : Run (Transcript σ)) :
    run.plain.finish = run.finish.map Attempt.plain := by
  unfold finish plain
  cases optimalMoves run.lair.size with
  | error breach => rfl
  | ok least =>
      simp only
      split
      · rfl
      · split <;> rfl

theorem Run.conclude_plainOutcome (outcome : Except (Stop (Transcript σ)) (Run (Transcript σ))) :
    Run.conclude (Run.plainOutcome outcome) = (Run.conclude outcome).map Attempt.plain := by
  obtain ⟨error | breach, run⟩ | run := outcome
  · rfl
  · rfl
  · exact Run.finish_plain run

namespace Lair

theorem solve_of_solved {lair : Lair} (solved : lair.solved = true) (strategy : Strategy)
    (watch : Observer σ) (seen : σ) :
    lair.solve strategy watch seen = .ok ⟨.error .alreadySolved, lair, seen⟩ := by
  simp [solve, solved]

/-- To solve a lair is to follow its itinerary, whichever the strategy. -/
theorem solve_of_unsolved {lair : Lair} (unsolved : lair.solved = false) (strategy : Strategy)
    (watch : Observer σ) (seen : σ) :
    lair.solve strategy watch seen =
      Run.conclude (Run.follow watch (itinerary .forest .hideout .base lair.size)
        ⟨lair, seen, 0⟩) := by
  simp [solve, unsolved, Strategy.transfer_eq_follow]

theorem transcript_of_solved {lair : Lair} (solved : lair.solved = true) (strategy : Strategy)
    (watch : Observer σ) (seen : σ) :
    lair.transcript strategy watch seen = .blank seen := by
  simp [transcript, solved]

theorem transcript_of_unsolved {lair : Lair} (unsolved : lair.solved = false)
    (strategy : Strategy) (watch : Observer σ) (seen : σ) :
    lair.transcript strategy watch seen =
      (Run.left (Run.follow watch.transcribed (itinerary .forest .hideout .base lair.size)
        ⟨lair, .blank seen, 0⟩)).seen := by
  simp [transcript, unsolved, Strategy.transfer_eq_follow]

/-- Solving a lair before an observer is solving it before its transcriber without the
notes, or the refusal in them ends it. -/
theorem solve_eq_of_transcript (strategy : Strategy) (watch : Observer σ) (seen : σ)
    (lair : Lair) :
    lair.solve strategy watch seen =
      match (lair.transcript strategy watch seen).refusal with
      | none => (lair.solve strategy watch.transcribed (.blank seen)).map Attempt.plain
      | some breach => .error breach := by
  cases solved : lair.solved with
  | true =>
      rw [transcript_of_solved solved, solve_of_solved solved, solve_of_solved solved]
      rfl
  | false =>
      have told := @Run.follow_transcribed _ _ ⟨lair, .blank seen, 0⟩ watch
        (apart_script lair.size) rfl
      rw [transcript_of_unsolved solved, solve_of_unsolved solved, solve_of_unsolved solved]
      split at told
      · exact (congrArg Run.conclude told).trans (Run.conclude_plainOutcome _)
      · obtain ⟨last, stopped⟩ := told
        exact congrArg Run.conclude stopped

/-- An observer that accepts every move refuses none. -/
theorem refusal_transcript_of_total {watch : Observer σ} (total : Observer.Total watch)
    (strategy : Strategy) (seen : σ) (lair : Lair) :
    (lair.transcript strategy watch seen).refusal = none := by
  cases solved : lair.solved with
  | true =>
      rw [transcript_of_solved solved]
      rfl
  | false =>
      rw [transcript_of_unsolved solved]
      refine Run.follow_induction (fun run : Run (Transcript σ) => run.seen.refusal = none)
        (apart_script lair.size) ?_ rfl
      intro earlier later hop first listening moved
      obtain ⟨log, -, -, -, -, -, written⟩ := (Run.move_eq_ok_iff first).1 moved
      obtain ⟨seen', accepted⟩ :=
        total ⟨later.done, log, hop.source, hop.target⟩ later.lair earlier.seen.seen
      rw [Observer.transcribed_of_ok listening accepted] at written
      rw [← Except.ok.inj written]

end Lair

/-- Whatever the piles hold and whoever watches, the two strategies tell the observer the
same and end in the same way. -/
theorem strategies_indistinguishable (watch : Observer σ) (seen : σ) (lair : Lair) :
    lair.transcript .recursive watch seen = lair.transcript .iterative watch seen ∧
      lair.solve .recursive watch seen = lair.solve .iterative watch seen := by
  have same := fun {τ : Type} (watch : Observer τ) (run : Run τ) =>
    (Strategy.recursive.transfer_eq_follow watch lair.size run).trans
      (Strategy.iterative.transfer_eq_follow watch lair.size run).symm
  constructor
  · unfold Lair.transcript
    rw [same]
  · unfold Lair.solve
    rw [same]

end LogPiles
