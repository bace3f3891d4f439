import LogPiles.Proofs.Faults

/-!
# Walks cover the game

A walk and the game have a legality test and a move of their own.  The walk reads
its lists of logs from the end, the game from the front, and the walk does not
know the game.  Even so they agree, whatever a walk has been through and however
disordered its piles are: the candidates of the walk are the hops of the game, in
the same order (`Walk.candidates_true`), and its moves are steps of the game
(`Walk.next?_moved`).

The order matters, since a source of decisions answers with a place in the list.
For the converse the answers can be written down.  Every step of the game is the
step of some script (`Walk.exists_step`), and so is every path
(`Walk.exists_advance`).
-/

namespace LogPiles

open Chance

namespace Walk

variable {walk next : Walk} {hop : Hop} {log : Log} {hops : List Hop} {piles final : Piles}

/-- A hop is a candidate of one kind or the other, and once, if it takes a log to another site. -/
theorem count_candidates (walk : Walk) (hop : Hop) :
    (walk.candidates true ++ walk.candidates false).count hop =
      if hop.source ≠ hop.target ∧ walk.piles.get hop.source ≠ [] then 1 else 0 := by
  rw [List.count_append, (walk.candidates_nodup true).count, (walk.candidates_nodup false).count]
  simp only [mem_candidates]
  cases top : walk.piles.top? hop.source with
  | none => simp [Piles.top?_eq_none_iff.1 top]
  | some log =>
      obtain ⟨rest, held⟩ := Piles.top?_eq_some_iff.1 top
      by_cases apart : hop.source = hop.target
      · simp [apart]
      · cases fits : walk.piles.fits log hop.target <;> simp [apart, held, fits]

/-- The hop of a walk that the game allows is a step of the game. -/
theorem next?_moved (allowed : walk.piles.canHop hop = true)
    (top : walk.piles.top? hop.source = some log) :
    walk.piles.next? hop = some (walk.moved log hop).piles :=
  Piles.next?_eq_some_iff.2 ⟨allowed, (piles_moved top).symm⟩

/-- Where faults do not happen a step makes the hop that was chosen, as the game does. -/
theorem step_refines {σ : Type} [Decisions σ] [FairDecisions σ] {source left : σ}
    {move? : Option Move} (calm : walk.faultProbability.isPositive = false)
    (stepped : walk.step source = .ok (move?, next, left)) :
    (walk.piles.legalHops = [] ∧ move? = none ∧ next = walk) ∨
      ∃ hop move, Decisions.pick (walk.candidates true) source = .ok (some hop, left) ∧
        move? = some move ∧ move.hop = hop ∧ walk.piles.next? hop = some next.piles := by
  rw [step_of_calm calm] at stepped
  obtain rest | ⟨hop, log, picked, allowed, top, rfl, rfl⟩ := legalStep_eq_ok stepped
  · exact .inl rest
  · exact .inr ⟨hop, _, picked, rfl, hop_nextMove walk log hop, next?_moved allowed top⟩

/-- Every step of the game is the step of a walk, if the right answer comes first. -/
theorem exists_step (calm : walk.faultProbability.isPositive = false)
    (made : walk.piles.next? hop = some piles) :
    ∃ answer log, (walk.moved log hop).piles = piles ∧ ∀ later,
      walk.step (⟨answer :: later⟩ : Script) =
        .ok (some (walk.nextMove log hop), walk.moved log hop, ⟨later⟩) := by
  obtain ⟨allowed, rfl⟩ := Piles.next?_eq_some_iff.1 made
  obtain ⟨-, log, top, -⟩ := Piles.canHop_iff.1 allowed
  have candidate : hop ∈ walk.candidates true := by
    rwa [candidates_true, Piles.mem_legalHops]
  obtain ⟨answer, picked⟩ := Script.exists_pick candidate
  refine ⟨answer, log, piles_moved top, fun later => ?_⟩
  rw [step_of_calm calm, legalStep, picked later]
  simp [bind, Except.bind, makeAny, make_of_top? top, pure, Except.pure]

/-- Every path of the game is a stretch of a walk, if the right answers come. -/
theorem exists_advance (calm : walk.faultProbability.isPositive = false)
    (path : walk.piles.follow? hops = some final) :
    ∃ answers next, next.piles = final ∧ ∀ taken,
      walk.advanceFrom taken hops.length (⟨answers⟩ : Script) =
        .ok (taken + hops.length, next, ⟨[]⟩) := by
  induction hops generalizing walk with
  | nil =>
      cases path
      exact ⟨[], walk, rfl, fun taken => rfl⟩
  | cons hop hops inductionHypothesis =>
      obtain ⟨middle, made, rest⟩ := Option.bind_eq_some_iff.1 path
      obtain ⟨answer, log, rfl, stepped⟩ := exists_step calm made
      obtain ⟨answers, next, arrived, advanced⟩ :=
        @inductionHypothesis (walk.moved log hop) calm rest
      refine ⟨answer :: answers, next, arrived, fun taken => ?_⟩
      rw [List.length_cons, advanceFrom, stepped answers]
      dsimp only
      rw [advanced (taken + 1), Nat.add_assoc, Nat.add_comm 1]

end Walk

/-- A position can be reached exactly when some walk of legal moves leads there. -/
theorem Piles.reachable_iff_run {size : Nat} {piles : Piles} :
    Reachable size piles ↔ ∃ steps, ∃ script left : Script, ∃ walk,
      Walk.run size steps script = .ok (walk, left) ∧ walk.piles = piles := by
  rw [reachable_iff_follow?]
  constructor
  · rintro ⟨hops, path⟩
    rw [← Walk.piles_start] at path
    obtain ⟨answers, walk, arrived, advanced⟩ := Walk.exists_advance (Walk.calm_start size).1 path
    refine ⟨hops.length, ⟨answers⟩, ⟨[]⟩, walk, ?_, arrived⟩
    rw [Walk.run, Walk.advance, advanced 0]
    rfl
  · rintro ⟨steps, script, left, walk, ran, rfl⟩
    have legal := (Walk.Led.run ran).accounted.retrace? (Walk.faults_of_run ran)
    exact ⟨_, follow?_of_retrace? legal⟩

/-- A position can be reached exactly when a walk without faults leads there, whatever else was
done with the walk. -/
theorem Piles.reachable_iff_led {size : Nat} {piles : Piles} :
    Reachable size piles ↔ ∃ walk : Walk, walk.Led size ∧ walk.faults = 0 ∧ walk.piles = piles := by
  constructor
  · intro reachable
    obtain ⟨steps, script, left, walk, ran, arrived⟩ := reachable_iff_run.1 reachable
    exact ⟨walk, .run ran, Walk.faults_of_run ran, arrived⟩
  · rintro ⟨walk, led, faultless, rfl⟩
    exact reachable_iff_follow?.2 ⟨_, follow?_of_retrace? (led.accounted.retrace? faultless)⟩

/-- Whatever a walk has been through, its legal candidates are the hops that the game allows in its
position, in the same order, and all its candidates are the hops of a log to another site, each of
them once.  Where faults do not happen, a step of the walk is the step of the game with the hop
that was chosen, and every step of the game can be the choice.  So the walks without faults lead
to the positions that the game can reach. -/
theorem walks_cover_game (size : Nat) :
    (∀ walk : Walk, walk.candidates true = walk.piles.legalHops ∧
      ∀ hop, (walk.candidates true ++ walk.candidates false).count hop =
        if hop.source ≠ hop.target ∧ walk.piles.get hop.source ≠ [] then 1 else 0) ∧
    (∀ walk : Walk, walk.faultProbability.isPositive = false →
      (∀ (σ : Type) [Decisions σ] [FairDecisions σ] (source left : σ) (move? : Option Move)
        (next : Walk), walk.step source = .ok (move?, next, left) →
        (walk.piles.legalHops = [] ∧ move? = none ∧ next = walk) ∨
          ∃ hop move, Decisions.pick (walk.candidates true) source = .ok (some hop, left) ∧
            move? = some move ∧ move.hop = hop ∧ walk.piles.next? hop = some next.piles) ∧
      ∀ piles, (∃ hop, walk.piles.next? hop = some piles) ↔
        ∃ script left : Script, ∃ move next,
          walk.step script = .ok (some move, next, left) ∧ next.piles = piles) ∧
    ∀ piles,
      (Piles.Reachable size piles ↔ ∃ steps, ∃ script left : Script, ∃ walk,
        Walk.run size steps script = .ok (walk, left) ∧ walk.piles = piles) ∧
      (Piles.Reachable size piles ↔
        ∃ walk : Walk, walk.Led size ∧ walk.faults = 0 ∧ walk.piles = piles) := by
  refine ⟨?_, ?_, ?_⟩
  · intro walk
    exact ⟨walk.candidates_true, walk.count_candidates⟩
  · intro walk calm
    refine ⟨?_, fun piles => ⟨?_, ?_⟩⟩
    · intro σ _ _ source left move? next stepped
      exact Walk.step_refines calm stepped
    · rintro ⟨hop, made⟩
      obtain ⟨answer, log, arrived, stepped⟩ := Walk.exists_step calm made
      exact ⟨_, _, _, _, stepped [], arrived⟩
    · rintro ⟨script, left, move, next, stepped, rfl⟩
      obtain ⟨-, none_made, -⟩ | ⟨hop, -, -, -, -, made⟩ := Walk.step_refines calm stepped
      · cases none_made
      · exact ⟨hop, made⟩
  · intro piles
    exact ⟨Piles.reachable_iff_run, Piles.reachable_iff_led⟩

/-- Two logs: the answer `1` chooses the second of the two hops that the game allows. -/
theorem walks_cover_game_started :
    (Walk.start 2).faultProbability.isPositive = false ∧
      ∃ move next, (Walk.start 2).step (⟨[1]⟩ : Script) = .ok (some move, next, ⟨[]⟩) ∧
        ∃ hop, (Walk.start 2).piles.next? hop = some next.piles ∧
          next.piles = ⟨[2], [], [1]⟩ := by
  have calm : (Walk.start 2).faultProbability.isPositive = false := by rfl
  have stepped : (Walk.start 2).step (⟨[1]⟩ : Script) =
      .ok (some ⟨1, 1, .forest, .hideout⟩,
        ⟨2, ⟨#[2], #[], #[1]⟩, .ofList [⟨1, 1, .forest, .hideout⟩], .never, 0⟩, ⟨[]⟩) := by rfl
  refine ⟨calm, _, _, stepped, ?_⟩
  obtain ⟨-, none_made, -⟩ | ⟨hop, -, -, -, -, made⟩ :=
    ((walks_cover_game 2).2.1 (Walk.start 2) calm).1 Script _ _ _ _ stepped
  · cases none_made
  · exact ⟨hop, made, by decide⟩

end LogPiles
