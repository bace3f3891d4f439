import LogPiles.Solve

/-!
# The itinerary of a transfer

Which hops a transfer makes does not depend on the logs that lie around: they
are the `itinerary` of its three sites and its count.  Both strategies follow
it hop by hop, whatever the piles hold and whatever the observer does, and stop
where a move cannot be made (`transfer_eq_follow`, `drain_eq_follow`).
-/

namespace LogPiles

variable {σ : Type}

/-- The hops that bring `count` logs from `source` to `target`. -/
def itinerary (source target spare : Site) : Nat → List Hop
  | 0 => []
  | count + 1 =>
    itinerary source spare target count ++
      ⟨source, target⟩ :: itinerary spare target source count

/-- The hops of an agenda, frame by frame. -/
def agendaHops (agenda : List Frame) : List Hop :=
  agenda.flatMap fun frame => itinerary frame.source frame.target frame.spare frame.count

/-- Makes one move for each hop. -/
def Run.follow (watch : Observer σ) : List Hop → Run σ → Except (Stop σ) (Run σ)
  | [], run => .ok run
  | hop :: hops, run => do
    let run ← run.move watch hop
    follow watch hops run

@[simp]
theorem length_itinerary (source target spare : Site) (count : Nat) :
    (itinerary source target spare count).length = leastMoves count := by
  induction count generalizing source target spare with
  | zero => rfl
  | succ count inductionHypothesis =>
      simp only [itinerary, List.length_append, List.length_cons, inductionHypothesis,
        leastMoves_succ]
      omega

@[simp]
theorem Run.follow_nil (watch : Observer σ) (run : Run σ) : run.follow watch [] = .ok run := rfl

theorem Run.follow_cons (watch : Observer σ) (hop : Hop) (hops : List Hop) (run : Run σ) :
    run.follow watch (hop :: hops) = (do
      let run ← run.move watch hop
      run.follow watch hops) := rfl

/-- Hops are followed one part of the list after the other. -/
theorem Run.follow_append (watch : Observer σ) (first second : List Hop) (run : Run σ) :
    run.follow watch (first ++ second) = (do
      let run ← run.follow watch first
      run.follow watch second) := by
  induction first generalizing run with
  | nil => rfl
  | cons hop hops inductionHypothesis =>
      cases moved : run.move watch hop with
      | error stop => simp [follow_cons, moved, bind, Except.bind]
      | ok next => simp [follow_cons, moved, inductionHypothesis, bind, Except.bind]

/-- The recursion follows its itinerary. -/
theorem transfer_eq_follow (watch : Observer σ) (source target spare : Site) (count : Nat)
    (run : Run σ) :
    transfer watch source target spare count run =
      run.follow watch (itinerary source target spare count) := by
  induction count generalizing source target spare run with
  | zero => rfl
  | succ count inductionHypothesis =>
      rw [transfer_succ, itinerary, Run.follow_append]
      simp only [inductionHypothesis, Run.follow_cons]

@[simp]
theorem agendaHops_nil : agendaHops [] = [] := rfl

@[simp]
theorem agendaHops_cons (frame : Frame) (agenda : List Frame) :
    agendaHops (frame :: agenda) =
      itinerary frame.source frame.target frame.spare frame.count ++ agendaHops agenda := rfl

/-- A turn makes the hops by which the agenda gets shorter, or leaves them as they
are. -/
theorem Frame.turn_bind_follow (watch : Observer σ) (frame : Frame) (pending : List Frame)
    (run : Run σ) :
    (do
      let (agenda, run) ← frame.turn watch pending run
      run.follow watch (agendaHops agenda)) =
      run.follow watch (agendaHops (frame :: pending)) := by
  obtain ⟨source, target, spare, count⟩ := frame
  match count with
  | 0 => rfl
  | 1 =>
    cases moved : run.move watch ⟨source, target⟩ with
    | error stop =>
        simp [turn, itinerary, Run.follow_cons, moved, Except.map, bind, Except.bind]
    | ok next =>
        simp [turn, itinerary, Run.follow_cons, moved, Except.map, bind, Except.bind]
  | count + 2 => simp [turn, parts, itinerary, bind, Except.bind]

/-- An agenda follows its hops. -/
theorem drain_eq_follow (watch : Observer σ) (agenda : List Frame) (run : Run σ) :
    drain watch agenda run = run.follow watch (agendaHops agenda) := by
  fun_induction drain watch agenda run with
  | case1 run => rfl
  | case2 run frame pending stop turned =>
      rw [← Frame.turn_bind_follow, turned]
      rfl
  | case3 run frame pending agenda next turned inductionHypothesis =>
      rw [inductionHypothesis, ← Frame.turn_bind_follow, turned]
      rfl

end LogPiles
