import LogPiles.Proofs.Solution

/-!
# What an observer is told

Nothing happens to a lair that its observer is not told, and nothing is told
that does not happen.  This is to hold wherever the run ends, so it is said of
the transcript and not of the outcome: the transcript is there after an error in
the middle of a transfer, after a log that does not fit, and after a refusal.

Three things tie a transcript to the run.  Its hops are the first hops of the
script (`Run.hops_left_prefix`), so there are no more of them than the script
has.  Each of its calls shows the lair to which the moves up to this one lead
(`Lair.Chronicle.call`), and the last one shows what the run leaves behind.  And
the transcript is no second observer beside the first: what the observer has
seen in the end is what it makes of these very calls (`Observer.hear`,
`Lair.hear_transcript`).

A run that stops early has made fewer moves than it has hops
(`Run.done_lt_of_stopped`).  The number of calls alone therefore tells a success
from an error.
-/

namespace LogPiles

variable {σ : Type}

/-- What an observer makes of some calls, one after the other. -/
def Observer.hear (watch : Observer σ) (calls : List (Move × Lair)) (seen : σ) :
    Except Breach σ :=
  calls.foldlM (fun seen call => watch call.1 call.2 seen) seen

theorem Observer.hear_concat (watch : Observer σ) (calls : List (Move × Lair)) (move : Move)
    (shown : Lair) (seen : σ) :
    watch.hear (calls ++ [(move, shown)]) seen = (do
      let seen ← watch.hear calls seen
      watch move shown seen) := by
  simp only [hear, List.foldlM_append, List.foldlM_cons, List.foldlM_nil, bind_pure]

namespace Lair

theorem arrange_position (lair : Lair) : lair.arrange lair.position = lair := rfl

namespace Chronicle

variable {lair : Lair} {done : Nat} {calls : List (Move × Lair)}

/-- A call has the next number and shows the lair to which the calls up to it lead. -/
theorem call (story : lair.Chronicle done calls) {index : Nat} {move : Move} {shown : Lair}
    (here : calls[index]? = some (move, shown)) :
    move.step = done + index + 1 ∧ shown = lair.after (calls.take (index + 1)) := by
  induction calls generalizing lair done index with
  | nil => cases here
  | cons first calls inductionHypothesis =>
      obtain ⟨step, -, -, -, later⟩ := story
      cases index with
      | zero =>
          cases here
          exact ⟨step, rfl⟩
      | succ index =>
          obtain ⟨number, reached⟩ := inductionHypothesis later here
          exact ⟨by omega, reached⟩

/-- Nothing changes along a chronicle but the logs on the piles. -/
theorem after_eq_arrange (story : lair.Chronicle done calls) :
    lair.after calls = lair.arrange (lair.after calls).position := by
  induction calls generalizing lair done with
  | nil => exact lair.arrange_position.symm
  | cons call calls inductionHypothesis =>
      obtain ⟨-, -, -, shown, later⟩ := story
      rw [after_cons, inductionHypothesis later, shown, arrange_arrange, position_arrange]

/-- The first calls of a chronicle are one. -/
theorem take (story : lair.Chronicle done calls) (count : Nat) :
    lair.Chronicle done (calls.take count) := by
  rw [← List.take_append_drop count calls, chronicle_append] at story
  exact story.1

end Chronicle

end Lair

namespace Run

/-- A run that is stopped has not made all its moves. -/
theorem done_lt_of_stopped {watch : Observer σ} {hops : List Hop} {run : Run σ} {stop : Stop σ}
    (apart : Apart hops) (stopped : run.follow watch hops = .error stop) :
    stop.run.done < run.done + hops.length := by
  induction hops generalizing run with
  | nil => cases stopped
  | cons hop hops inductionHypothesis =>
      obtain ⟨first, rest⟩ := apart_cons.1 apart
      rw [List.length_cons]
      cases moved : run.move watch hop with
      | error cause =>
          rw [follow_cons_of_error moved] at stopped
          cases stopped
          rw [(move_eq_error first moved).1]
          omega
      | ok next =>
          rw [follow_cons_of_ok moved] at stopped
          obtain ⟨-, -, -, -, done, -⟩ := (move_eq_ok_iff first).1 moved
          have fewer := inductionHypothesis rest stopped
          omega

/-- An attempt that comes to an answer either fails at a pile without logs, and then leaves the run
as it stands, or marks the lair of a run that came to its end. -/
theorem conclude_eq_ok {outcome : Except (Stop σ) (Run σ)} {attempt : Attempt σ}
    (concluded : conclude outcome = .ok attempt) :
    attempt.seen = (left outcome).seen ∧
      ((∃ error run, outcome = .error ⟨.error error, run⟩ ∧ attempt.answer = .error error ∧
          attempt.lair = run.lair) ∨
        ∃ run, outcome = .ok run ∧ attempt.answer = .ok run.done ∧
          attempt.lair = { run.lair with moves := run.done, solved := true }) := by
  obtain ⟨error | breach, run⟩ | run := outcome
  · cases concluded
    exact ⟨rfl, .inl ⟨error, run, rfl, rfl, rfl⟩⟩
  · cases concluded
  · obtain ⟨-, -, rfl⟩ := finish_eq_ok concluded
    exact ⟨rfl, .inr ⟨run, rfl, rfl, rfl⟩⟩

/-- A run that came to its end with the right number of moves fails the final checks only by the
number of its logs. -/
theorem finish_eq_error {run : Run σ} {breach : Breach} (within : run.lair.size ≤ sizeLimit)
    (done : run.done = leastMoves run.lair.size) (failed : run.finish = .error breach) :
    breach = .countsDiffer run.lair.count run.lair.size := by
  unfold finish at failed
  rw [optimalMoves_of_le within] at failed
  simp only [done, ne_eq, not_true_eq_false, if_false] at failed
  split at failed
  · exact (Except.error.inj failed).symm
  · cases failed

variable {watch : Observer σ} {hop : Hop} {hops : List Hop} {run next : Run (Transcript σ)}

/-- The hops that are told are the first of the list, whatever ends the run. -/
theorem hops_left_prefix (apart : Apart hops) :
    (left (run.follow watch.transcribed hops)).seen.moves.map Move.hop <+:
      run.seen.moves.map Move.hop ++ hops := by
  induction hops generalizing run with
  | nil => simp
  | cons hop hops inductionHypothesis =>
      obtain ⟨first, rest⟩ := apart_cons.1 apart
      cases refusal : run.seen.refusal with
      | some breach =>
          rw [seen_left_of_refused apart (by simp [refusal])]
          exact List.prefix_append _ _
      | none =>
          cases moved : run.move watch.transcribed hop with
          | error stop =>
              rw [follow_cons_of_error moved, left_error, (move_eq_error first moved).1]
              exact List.prefix_append _ _
          | ok next =>
              have later := @inductionHypothesis next rest
              rw [hops_of_move first refusal moved, List.append_assoc,
                List.singleton_append] at later
              rw [follow_cons_of_ok moved]
              exact later

/-- The observer has seen the calls of the transcript and nothing else, and if it has refused one
it was the last. -/
def Heard (watch : Observer σ) (seen : σ) (run : Run (Transcript σ)) : Prop :=
  watch.hear run.seen.calls seen =
    match run.seen.refusal with
    | none => .ok run.seen.seen
    | some breach => .error breach

/-- Every move is heard. -/
theorem Heard.move {seen : σ} (heard : Heard watch seen run) (apart : hop.source ≠ hop.target)
    (moved : run.move watch.transcribed hop = .ok next) : Heard watch seen next := by
  obtain ⟨log, -, -, -, -, -, written⟩ := (move_eq_ok_iff apart).1 moved
  cases refusal : run.seen.refusal with
  | some breach =>
      rw [Observer.transcribed_of_refused (by simp [refusal])] at written
      rwa [Heard, ← Except.ok.inj written]
  | none =>
      have before : watch.hear run.seen.calls seen = .ok run.seen.seen := by
        rw [heard, refusal]
      cases answer : watch ⟨next.done, log, hop.source, hop.target⟩ next.lair run.seen.seen with
      | ok after =>
          rw [Observer.transcribed_of_ok refusal answer] at written
          rw [Heard, ← Except.ok.inj written, Observer.hear_concat, before]
          exact answer
      | error breach =>
          rw [Observer.transcribed_of_error refusal answer] at written
          rw [Heard, ← Except.ok.inj written, Observer.hear_concat, before]
          exact answer

end Run

namespace Lair

variable {strategy : Strategy} {watch : Observer σ} {seen : σ} {lair : Lair}

/-- The observer makes of the calls what it has seen in the end, or it refuses the last of them. -/
theorem hear_transcript (strategy : Strategy) (watch : Observer σ) (seen : σ) (lair : Lair) :
    watch.hear (lair.transcript strategy watch seen).calls seen =
      match (lair.transcript strategy watch seen).refusal with
      | none => .ok (lair.transcript strategy watch seen).seen
      | some breach => .error breach := by
  cases solved : lair.solved with
  | true =>
      rw [transcript_of_solved solved]
      rfl
  | false =>
      rw [transcript_of_unsolved solved]
      exact Run.follow_induction (Run.Heard watch seen) (apart_script lair.size)
        (fun _ _ _ apart heard moved => heard.move apart moved) rfl

/-- The hops that are told are the first hops of the script. -/
theorem hops_transcript_prefix (strategy : Strategy) (watch : Observer σ) (seen : σ)
    (lair : Lair) :
    (lair.transcript strategy watch seen).moves.map Move.hop <+: script lair.size := by
  cases solved : lair.solved with
  | true =>
      rw [transcript_of_solved solved]
      exact List.nil_prefix
  | false =>
      rw [transcript_of_unsolved solved]
      exact @Run.hops_left_prefix _ watch _ ⟨lair, .blank seen, 0⟩ (apart_script lair.size)

theorem length_calls_le (strategy : Strategy) (watch : Observer σ) (seen : σ) (lair : Lair) :
    (lair.transcript strategy watch seen).calls.length ≤ leastMoves lair.size := by
  have short := (lair.hops_transcript_prefix strategy watch seen).length_le
  rwa [Transcript.moves, List.map_map, List.length_map, length_itinerary] at short

/-- The moves that are told are hauls that the game can make, to where the last call has shown the
lair. -/
theorem retrace?_transcript (strategy : Strategy) (watch : Observer σ) (seen : σ) (lair : Lair) :
    lair.position.retrace? ((lair.transcript strategy watch seen).moves.map Move.haul) =
      some (lair.after (lair.transcript strategy watch seen).calls).position := by
  rw [Transcript.moves, List.map_map]
  exact (lair.chronicle_transcript strategy watch seen).retrace?

/-- Each call shows the lair to which its moves have led so far. -/
theorem call_transcript (strategy : Strategy) (watch : Observer σ) (seen : σ) (lair : Lair)
    {index : Nat} {move : Move} {shown : Lair}
    (here : (lair.transcript strategy watch seen).calls[index]? = some (move, shown)) :
    move.step = index + 1 ∧ shown = lair.arrange shown.position ∧
      lair.position.retrace?
        (((lair.transcript strategy watch seen).moves.take (index + 1)).map Move.haul) =
        some shown.position := by
  have story := lair.chronicle_transcript strategy watch seen
  obtain ⟨step, rfl⟩ := story.call here
  have made := (story.take (index + 1)).retrace?
  refine ⟨by omega, (story.take (index + 1)).after_eq_arrange, ?_⟩
  rw [Transcript.moves, ← List.map_take, List.map_map]
  exact made

/-- What an attempt that comes to an answer leaves behind is what its moves have made of the lair.
All of them were told, and the moves of the script are complete where it succeeds and only there. -/
theorem answered (unsolved : lair.solved = false) {attempt : Attempt σ}
    (made : lair.solve strategy watch seen = .ok attempt) :
    (lair.transcript strategy watch seen).refusal = none ∧
      attempt.seen = (lair.transcript strategy watch seen).seen ∧
      ((∃ error, attempt.answer = .error error ∧
          attempt.lair = lair.after (lair.transcript strategy watch seen).calls ∧
          (lair.transcript strategy watch seen).calls.length < leastMoves lair.size) ∨
        attempt.answer = .ok (leastMoves lair.size) ∧
          attempt.lair =
            { lair.after (lair.transcript strategy watch seen).calls with
              moves := leastMoves lair.size, solved := true } ∧
          (lair.transcript strategy watch seen).calls.length = leastMoves lair.size) := by
  rw [solve_eq_of_transcript] at made
  cases refusal : (lair.transcript strategy watch seen).refusal with
  | some breach =>
      rw [refusal] at made
      cases made
  | none =>
      rw [refusal, solve_of_unsolved unsolved] at made
      rw [transcript_of_unsolved unsolved] at refusal ⊢
      have apart := apart_script lair.size
      -- the run before the transcriber, which is there to the end
      obtain ⟨reached, counted⟩ := (Run.telling_left watch seen lair).2 refusal
      refine ⟨rfl, ?_⟩
      cases concluded : Run.conclude (Run.follow watch.transcribed
          (itinerary .forest .hideout .base lair.size) ⟨lair, .blank seen, 0⟩) with
      | error breach =>
          rw [concluded] at made
          cases made
      | ok noted =>
          rw [concluded] at made
          cases made
          obtain ⟨heard, ⟨error, run, stopped, answer, left⟩ | ⟨run, ended, answer, left⟩⟩ :=
            Run.conclude_eq_ok concluded
          · have fewer := Run.done_lt_of_stopped apart stopped
            rw [stopped, Run.left_error] at heard reached counted ⊢
            rw [length_itinerary, Nat.zero_add, counted] at fewer
            exact ⟨congrArg Transcript.seen heard,
              .inl ⟨error, answer, left.trans reached, fewer⟩⟩
          · obtain ⟨-, -, done⟩ := Run.follow?_of_follow apart ended
            rw [ended, Run.left_ok] at heard reached counted ⊢
            rw [length_itinerary, Nat.zero_add] at done
            rw [done] at answer left
            refine ⟨congrArg Transcript.seen heard, .inr ⟨answer, ?_, counted.symm.trans done⟩⟩
            rw [← reached]
            exact left

/-- An attempt comes to no answer where its observer refuses a move, where a log does not fit, or
where the logs are more or fewer than the lair has.  It never runs out of numbers. -/
theorem unanswered (unsolved : lair.solved = false) (within : lair.size ≤ sizeLimit)
    {breach : Breach} (broken : lair.solve strategy watch seen = .error breach) :
    (lair.transcript strategy watch seen).refusal = some breach ∨
      (∃ log, breach = .smallerBelow log) ∨
      ∃ found, breach = .countsDiffer found lair.size := by
  rw [solve_eq_of_transcript] at broken
  cases refusal : (lair.transcript strategy watch seen).refusal with
  | some other =>
      rw [refusal] at broken
      cases broken
      exact .inl rfl
  | none =>
      refine .inr ?_
      rw [refusal, solve_of_unsolved unsolved] at broken
      cases followed : Run.follow watch.transcribed (itinerary .forest .hideout .base lair.size)
          ⟨lair, .blank seen, 0⟩ with
      | error stop =>
          rw [followed] at broken
          obtain ⟨cause, run⟩ := stop
          obtain ⟨site, empty⟩ | ⟨log, small⟩ := Run.follow_eq_error watch.total_transcribed
            (apart_script lair.size) (length_script_lt within) followed
          · subst empty
            cases broken
          · subst small
            cases broken
            exact .inl ⟨log, rfl⟩
      | ok run =>
          obtain ⟨-, arranged, done⟩ := Run.follow?_of_follow (apart_script lair.size) followed
          have size : run.lair.size = lair.size := by rw [arranged, size_arrange]
          rw [length_itinerary, Nat.zero_add, ← size] at done
          cases finished : run.finish with
          | ok attempt =>
              rw [followed, Run.conclude, finished] at broken
              cases broken
          | error other =>
              rw [followed, Run.conclude, finished] at broken
              cases broken
              have named := Run.finish_eq_error (size ▸ within) done finished
              exact .inr ⟨_, size ▸ named⟩

end Lair

/-- Whatever the piles of an unsolved lair hold and whoever watches.  The moves that are told are
numbered without gaps, and each is shown with the lair as the moves so far have left it, of which
nothing else has changed.  They are no more than a solution has, so that no move is without a
number.  An attempt that comes to an answer leaves the piles as the moves told have left them, and
the observer as these calls have left it; it has told as many moves as a solution has where it
succeeds and only there, and an error leaves all but the piles as it was.  A history that starts
empty refuses none of the moves and holds them in the end. -/
theorem observer_told_everything {lair : Lair} (unsolved : lair.solved = false)
    (within : lair.size ≤ sizeLimit) (strategy : Strategy) (watch : Observer σ) (seen : σ) :
    (∀ index move shown,
      (lair.transcript strategy watch seen).calls[index]? = some (move, shown) →
        move.step = index + 1 ∧
          lair.position.retrace?
            (((lair.transcript strategy watch seen).moves.take (index + 1)).map Move.haul) =
              some shown.position ∧
          shown = lair.arrange shown.position ∧ shown.moves = lair.moves ∧ shown.solved = false) ∧
    (lair.transcript strategy watch seen).calls.length ≤ 2 ^ lair.size - 1 ∧
    (∀ attempt, lair.solve strategy watch seen = .ok attempt →
      watch.hear (lair.transcript strategy watch seen).calls seen = .ok attempt.seen ∧
        lair.position.retrace? ((lair.transcript strategy watch seen).moves.map Move.haul) =
          some attempt.lair.position ∧
        attempt.lair.piles = (lair.arrange attempt.lair.position).piles ∧
        ((lair.transcript strategy watch seen).calls.length = 2 ^ lair.size - 1 ↔
          ∃ count, attempt.answer = .ok count) ∧
        ∀ error, attempt.answer = .error error →
          attempt.lair.moves = lair.moves ∧ attempt.lair.solved = false) ∧
    (∀ breach, lair.solve strategy watch seen = .error breach →
      (lair.transcript strategy watch seen).refusal = some breach ∨
        (∃ log, breach = .smallerBelow log) ∨ ∃ found, breach = .countsDiffer found lair.size) ∧
    ((lair.transcript strategy Observer.record History.empty).refusal = none ∧
      (lair.transcript strategy Observer.record History.empty).seen.toList =
        (lair.transcript strategy Observer.record History.empty).moves ∧
      ∀ attempt, lair.solve strategy Observer.record History.empty = .ok attempt →
        attempt.seen.toList =
          (lair.transcript strategy Observer.record History.empty).moves) := by
  refine ⟨?_, ?_, ?_, ?_, ?_⟩
  · intro index move shown here
    obtain ⟨step, arranged, made⟩ := lair.call_transcript strategy watch seen here
    exact ⟨step, made, arranged, by rw [arranged]; rfl, by rw [arranged]; exact unsolved⟩
  · rw [← leastMoves_eq]
    exact lair.length_calls_le strategy watch seen
  · intro attempt made
    have story := lair.chronicle_transcript strategy watch seen
    have heard := lair.hear_transcript strategy watch seen
    obtain ⟨quiet, seen_eq, outcome⟩ := Lair.answered unsolved made
    rw [quiet, ← seen_eq] at heard
    have arranged := story.after_eq_arrange
    have traced := lair.retrace?_transcript strategy watch seen
    rw [← leastMoves_eq]
    rcases outcome with ⟨error, answer, left, fewer⟩ | ⟨answer, left, all⟩
    · rw [answer, left]
      refine ⟨heard, traced, congrArg Lair.piles arranged, ?_, ?_⟩
      · simp [Nat.ne_of_lt fewer]
      · intro error' _
        rw [arranged]
        exact ⟨rfl, unsolved⟩
    · have piles := congrArg Lair.piles arranged
      rw [answer, left]
      refine ⟨heard, traced, piles, ?_, ?_⟩
      · simp [all]
      · intro error failed
        cases failed
  · intro breach broken
    exact Lair.unanswered unsolved within broken
  · obtain ⟨quiet, recorded⟩ := lair.transcript_record strategy
    refine ⟨quiet, recorded, fun attempt made => ?_⟩
    rw [(Lair.answered unsolved made).2.1, recorded]

/-- One log where there should be two: the attempt fails after one of three moves, and the history
holds that move. -/
theorem observer_told_everything_short :
    ((Lair.fresh 2).arrange ⟨[1], [], []⟩).solved = false ∧
      ((Lair.fresh 2).arrange ⟨[1], [], []⟩).size ≤ sizeLimit ∧
      ∃ attempt, ((Lair.fresh 2).arrange ⟨[1], [], []⟩).solve .recursive Observer.record
          History.empty = .ok attempt ∧
        attempt.answer = .error (.emptyPile .forest) ∧
        attempt.seen.toList = [⟨1, 1, .forest, .base⟩] ∧
        Piles.retrace? ⟨[1], [], []⟩ [⟨1, .forest, .base⟩] = some attempt.lair.position ∧
        attempt.lair.moves = 0 ∧ attempt.lair.solved = false := by
  have unsolved : ((Lair.fresh 2).arrange ⟨[1], [], []⟩).solved = false := rfl
  have within : ((Lair.fresh 2).arrange ⟨[1], [], []⟩).size ≤ sizeLimit := by decide
  obtain ⟨-, -, answered, -, -, -, recorded⟩ :=
    observer_told_everything unsolved within .recursive Observer.record History.empty
  have made : ((Lair.fresh 2).arrange ⟨[1], [], []⟩).solve .recursive Observer.record
      History.empty = .ok ⟨.error (.emptyPile .forest), (Lair.fresh 2).arrange ⟨[], [1], []⟩,
        .ofList [⟨1, 1, .forest, .base⟩]⟩ := by rfl
  obtain ⟨-, traced, -, -, kept⟩ := answered _ made
  exact ⟨unsolved, within, _, made, rfl, recorded _ made, traced, kept _ rfl⟩

end LogPiles
