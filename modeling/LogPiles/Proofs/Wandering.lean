import Mathlib.Data.List.Basic
import LogPiles.Walk

/-!
# What chance can make of a walk

A step of a walk asks a source of decisions, and of the source nothing is known
but that it chooses from the list it is shown.  What the step can come to is then
known from the position alone: `Walk.Step` lists the three cases, and
`Walk.step_sound` says that there is no other.  All that is proved of walks goes
through these cases, never through the questions that a step asks.

`Walk.Led` closes the steps under everything that can be done with a walk: it may
be run from the start, make one step or many, and change its probability of a
fault in between, each time before another source.  What the three cases keep
holds of every walk to which this leads (`Walk.Led.induction`).
-/

namespace LogPiles

open Chance

namespace Walk

variable {walk next : Walk} {move? : Option Move} {hop : Hop} {log : Log}

/-- The candidates, said of the position as the game has it. -/
theorem candidates_eq (walk : Walk) (legal : Bool) :
    walk.candidates legal = Hop.all.filter fun hop =>
      (walk.piles.top? hop.source).any fun log => walk.piles.fits log hop.target == legal := by
  simp only [candidates, Hop.all, List.filter_flatMap, List.filter_map, List.filter_filter]
  refine List.flatMap_congr fun source _ => ?_
  cases top : walk.columns.last? source with
  | none => simp [top?_piles, top]
  | some log =>
      dsimp only
      congr 1
      refine List.filter_congr fun target _ => ?_
      simp [fits_piles, top?_piles, top, Bool.and_comm]

/-- The candidates are the hops of a top log to another site that it fits, or that it does not. -/
theorem mem_candidates {legal : Bool} :
    hop ∈ walk.candidates legal ↔
      hop.source ≠ hop.target ∧
        ∃ log, walk.piles.top? hop.source = some log ∧ walk.piles.fits log hop.target = legal := by
  simp only [candidates_eq, List.mem_filter, Hop.mem_all, Option.any_eq_true, beq_iff_eq]

theorem candidates_nodup (walk : Walk) (legal : Bool) : (walk.candidates legal).Nodup := by
  rw [candidates_eq]
  exact Hop.all_nodup.filter _

/-- The candidates that are legal are what the game allows, in the same order. -/
theorem candidates_true (walk : Walk) : walk.candidates true = walk.piles.legalHops := by
  rw [candidates_eq, Piles.legalHops]
  apply List.filter_congr
  intro hop inside
  simp [Piles.canHop, Hop.mem_all.1 inside]

/-- The other candidates put a log on one that is not larger. -/
theorem mem_candidates_false :
    hop ∈ walk.candidates false ↔
      hop.source ≠ hop.target ∧ ∃ log below, walk.piles.top? hop.source = some log ∧
        walk.piles.top? hop.target = some below ∧ below ≤ log := by
  rw [mem_candidates]
  refine and_congr_right fun _ => exists_congr fun log => ?_
  cases under : walk.piles.top? hop.target <;> simp [Piles.fits, under]

/-- The walk after a hop of a log. -/
def moved (walk : Walk) (log : Log) (hop : Hop) : Walk :=
  { walk with
    columns := walk.columns.shift hop log
    history := (walk.history.record log hop).2 }

/-- The move that a hop of a log becomes. -/
def nextMove (walk : Walk) (log : Log) (hop : Hop) : Move :=
  ⟨walk.history.length + 1, log, hop.source, hop.target⟩

@[simp]
theorem hop_nextMove (walk : Walk) (log : Log) (hop : Hop) : (walk.nextMove log hop).hop = hop :=
  rfl

@[simp]
theorem moves_moved (walk : Walk) (log : Log) (hop : Hop) :
    (walk.moved log hop).history.toList = walk.history.toList ++ [walk.nextMove log hop] :=
  History.toList_record log hop walk.history

/-- A hop that finds a log moves it. -/
theorem make_of_top? (top : walk.piles.top? hop.source = some log) :
    walk.make hop = (some (walk.nextMove log hop), walk.moved log hop) := by
  rw [top?_piles] at top
  rw [make, top]
  rfl

/-- A walk moves its logs as the game does. -/
theorem piles_moved (top : walk.piles.top? hop.source = some log) :
    (walk.moved log hop).piles = walk.piles.carry hop :=
  Columns.piles_shift ((top?_piles walk hop.source).symm.trans top)

/-- What a step can come to: nothing where the game allows no hop, or a hop that it allows, or
else a hop onto a log that is not larger, which is counted as a fault. -/
inductive Step (walk : Walk) : Option Move → Walk → Prop where
  | rest (stuck : walk.piles.legalHops = []) : Step walk none walk
  | legal {hop : Hop} {log : Log} (allowed : walk.piles.canHop hop = true)
      (top : walk.piles.top? hop.source = some log) :
      Step walk (some (walk.nextMove log hop)) (walk.moved log hop)
  | fault {hop : Hop} {log below : Log} (possible : walk.faultProbability.isPositive = true)
      (apart : hop.source ≠ hop.target) (top : walk.piles.top? hop.source = some log)
      (under : walk.piles.top? hop.target = some below) (notLarger : below ≤ log) :
      Step walk (some (walk.nextMove log hop))
        { walk.moved log hop with faults := walk.faults + 1 }

section Sources

variable {σ : Type} [Decisions σ] [FairDecisions σ] {source left : σ}

/-- A legal step makes the hop that was chosen among those that the game allows, and rests where
there is none. -/
theorem legalStep_eq_ok (stepped : walk.legalStep source = .ok (move?, next, left)) :
    (walk.piles.legalHops = [] ∧ move? = none ∧ next = walk) ∨
      ∃ hop log, Decisions.pick (walk.candidates true) source = .ok (some hop, left) ∧
        walk.piles.canHop hop = true ∧ walk.piles.top? hop.source = some log ∧
        move? = some (walk.nextMove log hop) ∧ next = walk.moved log hop := by
  obtain ⟨⟨hop?, after⟩, picked, made⟩ := bind_eq_ok_iff.1 stepped
  cases hop? with
  | none =>
      obtain ⟨rfl, rfl, rfl⟩ : none = move? ∧ walk = next ∧ after = left := by
        simpa [makeAny, pure, Except.pure] using made
      refine .inl ⟨?_, rfl, rfl⟩
      rw [← candidates_true]
      exact (FairDecisions.pick_none picked).1 rfl
  | some hop =>
      have candidate := FairDecisions.pick_mem picked
      rw [candidates_true, Piles.mem_legalHops] at candidate
      obtain ⟨-, log, top, -⟩ := Piles.canHop_iff.1 candidate
      obtain ⟨rfl, rfl, rfl⟩ :
          some (walk.nextMove log hop) = move? ∧ walk.moved log hop = next ∧ after = left := by
        simpa [makeAny, make_of_top? top, pure, Except.pure] using made
      exact .inr ⟨hop, log, picked, candidate, top, rfl, rfl⟩

theorem legalStep_sound (stepped : walk.legalStep source = .ok (move?, next, left)) :
    walk.Step move? next := by
  obtain ⟨stuck, rfl, rfl⟩ | ⟨hop, log, -, allowed, top, rfl, rfl⟩ := legalStep_eq_ok stepped
  · exact .rest stuck
  · exact .legal allowed top

/-- A fault puts a log on one that is not larger, and where that is not possible it gives way to a
legal hop. -/
theorem faultStep_sound (possible : walk.faultProbability.isPositive = true)
    (stepped : walk.faultStep source = .ok (move?, next, left)) : walk.Step move? next := by
  obtain ⟨⟨hop?, after⟩, picked, made⟩ := bind_eq_ok_iff.1 stepped
  cases hop? with
  | none => exact legalStep_sound made
  | some hop =>
      obtain ⟨apart, log, below, top, under, notLarger⟩ :=
        mem_candidates_false.1 (FairDecisions.pick_mem picked)
      have moved := @make_of_top? { walk with faults := walk.faults + 1 } hop log top
      dsimp only at made
      rw [moved] at made
      cases made
      exact .fault possible apart top under notLarger

/-- A step comes to one of the three cases. -/
theorem step_sound (stepped : walk.step source = .ok (move?, next, left)) :
    walk.Step move? next := by
  unfold step at stepped
  split at stepped
  · next possible =>
      obtain ⟨⟨fault, after⟩, -, made⟩ := bind_eq_ok_iff.1 stepped
      cases fault with
      | true => exact faultStep_sound possible made
      | false => exact legalStep_sound made
  · exact legalStep_sound stepped

omit [FairDecisions σ] in
/-- Where faults do not happen every step is a legal one. -/
theorem step_of_calm (calm : walk.faultProbability.isPositive = false) (source : σ) :
    walk.step source = walk.legalStep source := by
  simp [step, calm]

/-- What every step keeps is kept by many of them. -/
theorem advanceFrom_induction {Kept : Walk → Prop}
    (keeps : ∀ {walk next : Walk} {move? : Option Move}, Kept walk → walk.Step move? next → Kept next)
    {taken steps count : Nat}
    (advanced : walk.advanceFrom taken steps source = .ok (count, next, left))
    (kept : Kept walk) : Kept next := by
  induction steps generalizing walk source taken with
  | zero =>
      cases advanced
      exact kept
  | succ steps inductionHypothesis =>
      rw [advanceFrom] at advanced
      cases stepped : walk.step source with
      | error breach =>
          rw [stepped] at advanced
          cases advanced
      | ok outcome =>
          obtain ⟨move?, middle, after⟩ := outcome
          rw [stepped] at advanced
          have kept' := keeps kept (step_sound stepped)
          cases move? with
          | none =>
              cases advanced
              exact kept'
          | some move => exact inductionHypothesis advanced kept'

/-- Where faults do not happen they are not counted either, and a step does not make them happen. -/
def Calm (walk : Walk) : Prop := walk.faultProbability.isPositive = false ∧ walk.faults = 0

theorem calm_start (size : Nat) : (start size).Calm := ⟨Probability.isPositive_never, rfl⟩

theorem Calm.step (calm : walk.Calm) (stepped : walk.Step move? next) : next.Calm := by
  cases stepped with
  | rest => exact calm
  | legal => exact calm
  | fault possible => simp [calm.1] at possible

/-- A walk that only makes legal moves has no faults. -/
theorem faults_of_run {size steps : Nat} (ran : run size steps source = .ok (walk, left)) :
    walk.faults = 0 := by
  obtain ⟨⟨count, walk, after⟩, advanced, ended⟩ := bind_eq_ok_iff.1 ran
  cases ended
  exact (advanceFrom_induction Calm.step advanced (calm_start size)).2

end Sources

/-- The walks to which anything leads that can be done with a walk, whatever the sources decide. -/
inductive Led (size : Nat) : Walk → Prop where
  | start : Led size (start size)
  | run {σ : Type} [Decisions σ] [FairDecisions σ] {steps : Nat} {source left : σ} {walk : Walk}
      (ran : run size steps source = .ok (walk, left)) : Led size walk
  | step {σ : Type} [Decisions σ] [FairDecisions σ] {source left : σ} {walk next : Walk}
      {move? : Option Move} (earlier : Led size walk)
      (stepped : walk.step source = .ok (move?, next, left)) : Led size next
  | advance {σ : Type} [Decisions σ] [FairDecisions σ] {steps count : Nat} {source left : σ}
      {walk next : Walk} (earlier : Led size walk)
      (advanced : walk.advance steps source = .ok (count, next, left)) : Led size next
  | probability {probability : Float} {walk next : Walk} (earlier : Led size walk)
      (changed : walk.withFaultProbability probability = .ok next) : Led size next

/-- What holds at the start and is kept by every step and every change of the probability holds of
every walk. -/
theorem Led.induction {size : Nat} {Kept : Walk → Prop} (first : Kept (Walk.start size))
    (keeps : ∀ {walk next : Walk} {move? : Option Move}, Kept walk → walk.Step move? next → Kept next)
    (changes : ∀ {walk : Walk} (probability : Probability), Kept walk →
      Kept { walk with faultProbability := probability })
    (led : Led size walk) : Kept walk := by
  induction led with
  | start => exact first
  | run ran =>
      obtain ⟨⟨count, walk, after⟩, advanced, ended⟩ := bind_eq_ok_iff.1 ran
      cases ended
      exact advanceFrom_induction keeps advanced first
  | step _ stepped kept => exact keeps kept (step_sound stepped)
  | advance _ advanced kept => exact advanceFrom_induction keeps advanced kept
  | probability _ changed kept =>
      obtain ⟨probability, -, ended⟩ := bind_eq_ok_iff.1 changed
      cases ended
      exact changes probability kept

end Walk

end LogPiles
