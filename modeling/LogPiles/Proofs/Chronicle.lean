import LogPiles.Proofs.Haul
import LogPiles.Proofs.Transcript

/-!
# Chronicles

The calls of a run are not just any list.  `Lair.Chronicle` says what makes a
list of calls the story of a lair: the moves are numbered without gaps, each of
them takes the top log of a pile and puts it where the rule of the game allows,
and the lair of each call is the lair of the call before with this one log
moved.

Every transcript is such a story (`Lair.chronicle_transcript`), for any lair,
either strategy and any observer, also where the run fails half-way.  What holds
of the lair at the start and is kept by legal moves therefore holds of every
lair that an observer is ever shown (`Lair.Chronicle.induction`).
-/

namespace LogPiles

variable {σ : Type}

namespace Lair

/-- The calls tell, one legal move after the other, what happens to the lair from here
on, `done` moves having been made before. -/
def Chronicle (lair : Lair) (done : Nat) : List (Move × Lair) → Prop
  | [] => True
  | (move, shown) :: calls =>
    move.step = done + 1 ∧ lair.position.canHop move.hop = true ∧
      lair.position.top? move.source = some move.log ∧
      shown = lair.arrange (lair.position.carry move.hop) ∧
      shown.Chronicle (done + 1) calls

/-- The lair that the last call shows. -/
def after (lair : Lair) : List (Move × Lair) → Lair
  | [] => lair
  | (_, shown) :: calls => shown.after calls

@[simp]
theorem after_nil (lair : Lair) : lair.after [] = lair := rfl

@[simp]
theorem after_cons (lair shown : Lair) (move : Move) (calls : List (Move × Lair)) :
    lair.after ((move, shown) :: calls) = shown.after calls := rfl

@[simp]
theorem after_append (lair : Lair) (calls more : List (Move × Lair)) :
    lair.after (calls ++ more) = (lair.after calls).after more := by
  induction calls generalizing lair with
  | nil => rfl
  | cons call calls inductionHypothesis => exact inductionHypothesis call.2

theorem chronicle_append {lair : Lair} {done : Nat} {calls more : List (Move × Lair)} :
    lair.Chronicle done (calls ++ more) ↔
      lair.Chronicle done calls ∧ (lair.after calls).Chronicle (done + calls.length) more := by
  induction calls generalizing lair done with
  | nil => simp [Chronicle]
  | cons call calls inductionHypothesis =>
      obtain ⟨move, shown⟩ := call
      simp only [List.cons_append, Chronicle, inductionHypothesis, after_cons, List.length_cons,
        and_assoc, Nat.add_assoc, Nat.add_comm 1]

/-- What a legal move keeps holds of every lair that is shown. -/
theorem Chronicle.induction (Kept : Lair → Prop) {lair : Lair} {done : Nat}
    {calls : List (Move × Lair)} (story : lair.Chronicle done calls)
    (keeps : ∀ lair hop, Kept lair → lair.position.canHop hop = true →
      Kept (lair.arrange (lair.position.carry hop)))
    (kept : Kept lair) : ∀ call ∈ calls, Kept call.2 := by
  induction calls generalizing lair done with
  | nil => simp
  | cons call calls inductionHypothesis =>
      obtain ⟨move, shown⟩ := call
      obtain ⟨-, legal, -, rfl, later⟩ := story
      have shown_kept := keeps lair move.hop kept legal
      intro other inside
      rcases List.mem_cons.1 inside with rfl | inside
      · exact shown_kept
      · exact inductionHypothesis later shown_kept other inside

/-- The hops of a chronicle are a path of the game. -/
theorem Chronicle.follow? {lair : Lair} {done : Nat} {calls : List (Move × Lair)}
    (story : lair.Chronicle done calls) :
    lair.position.follow? (calls.map fun call => call.1.hop) =
      some (lair.after calls).position := by
  induction calls generalizing lair done with
  | nil => rfl
  | cons call calls inductionHypothesis =>
      obtain ⟨move, shown⟩ := call
      obtain ⟨-, legal, -, rfl, later⟩ := story
      have step : lair.position.next? move.hop = some (lair.position.carry move.hop) :=
        Piles.next?_eq_some_iff.2 ⟨legal, rfl⟩
      rw [List.map_cons, Piles.follow?_cons, step, Option.bind_some]
      exact inductionHypothesis later

/-- The moves of a chronicle are hauls that the game can make. -/
theorem Chronicle.retrace? {lair : Lair} {done : Nat} {calls : List (Move × Lair)}
    (story : lair.Chronicle done calls) :
    lair.position.retrace? (calls.map fun call => call.1.haul) =
      some (lair.after calls).position := by
  induction calls generalizing lair done with
  | nil => rfl
  | cons call calls inductionHypothesis =>
      obtain ⟨move, shown⟩ := call
      obtain ⟨-, legal, top, rfl, later⟩ := story
      have step : lair.position.haul? move.haul = some (lair.position.carry move.hop) :=
        Piles.haul?_of_canHop legal top
      rw [List.map_cons, Piles.retrace?_cons, step, Option.bind_some]
      exact inductionHypothesis later

end Lair

namespace Run

variable {watch : Observer σ} {hop : Hop} {hops : List Hop} {run next : Run (Transcript σ)}

/-- A move that is told is one more call. -/
theorem calls_of_move (apart : hop.source ≠ hop.target) (listening : run.seen.refusal = none)
    (moved : run.move watch.transcribed hop = .ok next) :
    ∃ log, run.lair.position.canHop hop = true ∧
      run.lair.position.top? hop.source = some log ∧
      next.lair = run.lair.arrange (run.lair.position.carry hop) ∧
      next.done = run.done + 1 ∧
      next.seen.calls =
        run.seen.calls ++ [(⟨next.done, log, hop.source, hop.target⟩, next.lair)] := by
  obtain ⟨log, legal, top, lair, done, -, written⟩ := (move_eq_ok_iff apart).1 moved
  refine ⟨log, legal, top, lair, done, ?_⟩
  cases answer : watch ⟨next.done, log, hop.source, hop.target⟩ next.lair run.seen.seen with
  | ok seen =>
      rw [Observer.transcribed_of_ok listening answer] at written
      rw [← Except.ok.inj written]
  | error breach =>
      rw [Observer.transcribed_of_error listening answer] at written
      rw [← Except.ok.inj written]

/-- A move that is told is one more hop. -/
theorem hops_of_move (apart : hop.source ≠ hop.target) (listening : run.seen.refusal = none)
    (moved : run.move watch.transcribed hop = .ok next) :
    next.seen.moves.map Move.hop = run.seen.moves.map Move.hop ++ [hop] := by
  obtain ⟨log, -, -, -, -, calls⟩ := calls_of_move apart listening moved
  simp [Transcript.moves, calls, Move.hop]

/-- The story so far: the calls are a chronicle of the lair at the start, and while the
observer listens they reach the lair as it is. -/
def Telling (start : Lair) (run : Run (Transcript σ)) : Prop :=
  start.Chronicle 0 run.seen.calls ∧
    (run.seen.refusal = none →
      run.lair = start.after run.seen.calls ∧ run.done = run.seen.calls.length)

theorem telling_blank (start : Lair) (seen : σ) : Telling start ⟨start, .blank seen, 0⟩ :=
  ⟨trivial, fun _ => ⟨rfl, rfl⟩⟩

/-- Every move keeps the story. -/
theorem Telling.move {start : Lair} (telling : Telling start run)
    (apart : hop.source ≠ hop.target) (moved : run.move watch.transcribed hop = .ok next) :
    Telling start next := by
  cases refusal : run.seen.refusal with
  | none =>
      obtain ⟨log, legal, top, lair, done, calls⟩ := calls_of_move apart refusal moved
      obtain ⟨here, counted⟩ := telling.2 refusal
      have told : start.Chronicle 0 next.seen.calls := by
        rw [calls, Lair.chronicle_append, ← here]
        refine ⟨telling.1, ?_, legal, top, lair, trivial⟩
        rw [done, counted, Nat.zero_add]
      refine ⟨told, fun _ => ?_⟩
      rw [calls, done, counted]
      simp
  | some breach =>
      obtain ⟨log, -, -, -, -, -, written⟩ := (move_eq_ok_iff apart).1 moved
      have refused : run.seen.refusal.isSome := by simp [refusal]
      rw [Observer.transcribed_of_refused refused] at written
      rw [Telling, ← Except.ok.inj written, refusal]
      exact ⟨telling.1, by simp⟩

/-- Wherever the run of a script ends, it has told its story so far. -/
theorem telling_left (watch : Observer σ) (seen : σ) (lair : Lair) :
    Telling lair (left (follow watch.transcribed (itinerary .forest .hideout .base lair.size)
      ⟨lair, .blank seen, 0⟩)) :=
  follow_induction (Telling lair) (apart_script lair.size)
    (fun _ _ _ apart telling moved => telling.move apart moved) (telling_blank lair seen)

/-- A run that came to its end before a listening observer has told all its hops. -/
theorem hops_of_follow (apart : Apart hops)
    (followed : run.follow watch.transcribed hops = .ok next)
    (listening : next.seen.refusal = none) :
    next.seen.moves.map Move.hop = run.seen.moves.map Move.hop ++ hops := by
  induction hops generalizing run with
  | nil =>
      cases followed
      simp
  | cons hop hops inductionHypothesis =>
      obtain ⟨first, rest⟩ := apart_cons.1 apart
      cases moved : run.move watch.transcribed hop with
      | error stop =>
          rw [follow_cons_of_error moved] at followed
          cases followed
      | ok middle =>
          have heard : run.seen.refusal = none := by
            apply listening_of_left apart
            rw [followed]
            exact listening
          rw [follow_cons_of_ok moved] at followed
          rw [inductionHypothesis rest followed, hops_of_move first heard moved,
            List.append_assoc, List.singleton_append]

end Run

namespace Lair

/-- Whatever lair is solved, the observer is told a chronicle of it. -/
theorem chronicle_transcript (strategy : Strategy) (watch : Observer σ) (seen : σ)
    (lair : Lair) : lair.Chronicle 0 (lair.transcript strategy watch seen).calls := by
  cases solved : lair.solved with
  | true =>
      rw [transcript_of_solved solved]
      trivial
  | false =>
      rw [transcript_of_unsolved solved]
      exact (Run.telling_left watch seen lair).1

/-- A history that starts empty takes in every move that it is told. -/
theorem transcript_record (strategy : Strategy) (lair : Lair) :
    let transcript := lair.transcript strategy Observer.record History.empty
    transcript.refusal = none ∧ transcript.seen.toList = transcript.moves := by
  cases solved : lair.solved with
  | true =>
      rw [transcript_of_solved solved]
      exact ⟨rfl, rfl⟩
  | false =>
      rw [transcript_of_unsolved solved]
      -- the number of the next move is known from the length of the history
      have kept := @Run.follow_induction _ Observer.record.transcribed
        (itinerary .forest .hideout .base lair.size) ⟨lair, .blank History.empty, 0⟩
        (fun run => (run.seen.refusal = none ∧ run.seen.seen.toList = run.seen.moves) ∧
          run.done = run.seen.seen.length) (apart_script lair.size) ?_ ⟨⟨rfl, rfl⟩, rfl⟩
      · exact kept.1
      · rintro run next hop apart ⟨⟨listening, told⟩, numbered⟩ moved
        obtain ⟨log, -, -, -, done, -, written⟩ := (Run.move_eq_ok_iff apart).1 moved
        let move : Move := ⟨next.done, log, hop.source, hop.target⟩
        have next_number : move.step = run.seen.seen.length + 1 := by
          show next.done = run.seen.seen.length + 1
          rw [done, numbered]
        have taken : Observer.record move next.lair run.seen.seen =
            .ok ⟨run.seen.seen.moves.push move⟩ := History.push_next next_number
        obtain ⟨-, grown⟩ := History.toList_push taken
        rw [Observer.transcribed_of_ok listening taken] at written
        rw [← Except.ok.inj written]
        refine ⟨⟨rfl, ?_⟩, ?_⟩
        · rw [grown, told]
          simp [Transcript.moves, move]
        · rw [done, numbered, ← History.length_toList, ← History.length_toList, grown]
          simp

end Lair

end LogPiles
