import LogPiles.Account

/-!
# Hauls

A haul is a move without its number: a log, and the two sites between which it
goes.  It says more than a hop, which takes whatever lies on top.  The game can
make a haul when the rule allows the hop and the log on top is the one named,
and `Piles.retrace?` makes one haul after the other for as long as that is so.

A history is judged by its hauls.  The numbers of its moves appear in what is
said about it and nowhere else.
-/

namespace LogPiles

/-- A log and the sites between which it goes. -/
@[ext]
structure Haul where
  log : Log
  source : Site
  target : Site
  deriving DecidableEq

/-- The sites of a haul. -/
def Haul.hop (haul : Haul) : Hop := ⟨haul.source, haul.target⟩

/-- The same log, back to where it came from. -/
def Haul.back (haul : Haul) : Haul := ⟨haul.log, haul.target, haul.source⟩

/-- A move without its number. -/
def Move.haul (move : Move) : Haul := ⟨move.log, move.source, move.target⟩

/-- The moves of a history without their numbers. -/
def History.hauls (history : History) : List Haul := history.toList.map Move.haul

theorem History.length_hauls (history : History) : history.hauls.length = history.length := by
  rw [hauls, List.length_map, length_toList]

/-- Where the hauls of a history are split its moves can be split. -/
theorem History.exists_split {history : History} {before later : List Haul} {haul : Haul}
    (split : history.hauls = before ++ haul :: later) :
    ∃ first move rest, history.toList = first ++ move :: rest ∧ first.map Move.haul = before ∧
      move.haul = haul := by
  obtain ⟨first, others, whole, told, told'⟩ := List.map_eq_append_iff.1 split
  obtain ⟨move, rest, rfl, named, -⟩ := List.map_eq_cons_iff.1 told'
  exact ⟨first, move, rest, whole, told, named⟩

namespace Piles

/-- One step of the game that takes the log it names. -/
def haul? (piles : Piles) (haul : Haul) : Option Piles :=
  if piles.top? haul.source = some haul.log then piles.next? haul.hop else none

/-- Makes hauls as long as the game can. -/
def retrace? : Piles → List Haul → Option Piles
  | piles, [] => some piles
  | piles, haul :: hauls => (piles.haul? haul).bind (retrace? · hauls)

variable {piles next final last : Piles} {haul : Haul} {hauls others : List Haul}

theorem haul?_eq_some_iff :
    piles.haul? haul = some next ↔
      piles.top? haul.source = some haul.log ∧ piles.next? haul.hop = some next := by
  simp [haul?]

/-- The game makes a haul when the rule allows the hop and the log is on top. -/
theorem haul?_of_canHop (allowed : piles.canHop haul.hop = true)
    (lies : piles.top? haul.source = some haul.log) :
    piles.haul? haul = some (piles.carry haul.hop) :=
  haul?_eq_some_iff.2 ⟨lies, next?_eq_some_iff.2 ⟨allowed, rfl⟩⟩

@[simp]
theorem retrace?_nil (piles : Piles) : piles.retrace? [] = some piles := rfl

@[simp]
theorem retrace?_cons (piles : Piles) (haul : Haul) (hauls : List Haul) :
    piles.retrace? (haul :: hauls) = (piles.haul? haul).bind (retrace? · hauls) := rfl

/-- Hauls are made one part of the list after the other. -/
theorem retrace?_append (piles : Piles) (first second : List Haul) :
    piles.retrace? (first ++ second) = (piles.retrace? first).bind (retrace? · second) := by
  induction first generalizing piles with
  | nil => rfl
  | cons haul hauls inductionHypothesis =>
      cases step : piles.haul? haul <;> simp [step, inductionHypothesis]

/-- The hops of hauls that were made are a path of the game. -/
theorem follow?_of_retrace? (made : piles.retrace? hauls = some final) :
    piles.follow? (hauls.map Haul.hop) = some final := by
  induction hauls generalizing piles with
  | nil => exact made
  | cons haul hauls inductionHypothesis =>
      rw [retrace?_cons] at made
      obtain ⟨next, step, rest⟩ := Option.bind_eq_some_iff.1 made
      rw [List.map_cons, follow?_cons, (haul?_eq_some_iff.1 step).2, Option.bind_some]
      exact inductionHypothesis rest

/-- Two hauls that can be made in one position are the same if their hops are: the log is the
one that lies there. -/
theorem haul_eq_of_hop {other : Haul} {next' : Piles} (step : piles.haul? haul = some next)
    (step' : piles.haul? other = some next') (same : haul.hop = other.hop) : haul = other := by
  obtain ⟨top, -⟩ := haul?_eq_some_iff.1 step
  obtain ⟨top', -⟩ := haul?_eq_some_iff.1 step'
  have sites := Hop.mk.inj same
  rw [← sites.1, top] at top'
  exact Haul.ext (Option.some.inj top') sites.1 sites.2

/-- Hauls that were made from one position are known from their hops. -/
theorem hauls_eq_of_hops (made : piles.retrace? hauls = some final)
    (made' : piles.retrace? others = some last)
    (same : hauls.map Haul.hop = others.map Haul.hop) : hauls = others := by
  induction hauls generalizing piles others with
  | nil => exact (List.map_eq_nil_iff.1 same.symm).symm
  | cons haul hauls inductionHypothesis =>
      obtain ⟨other, others, rfl, hop, hops⟩ := List.map_eq_cons_iff.1 same.symm
      obtain ⟨next, step, rest⟩ := Option.bind_eq_some_iff.1 made
      obtain ⟨next', step', rest'⟩ := Option.bind_eq_some_iff.1 made'
      obtain rfl := haul_eq_of_hop step step' hop.symm
      obtain rfl := Option.some.inj (step.symm.trans step')
      rw [inductionHypothesis rest rest' hops.symm]

/-- Hauls that cannot all be made come to one that cannot be made where the ones before lead. -/
theorem exists_of_retrace?_eq_none (stuck : piles.retrace? hauls = none) :
    ∃ before haul later reached, hauls = before ++ haul :: later ∧
      piles.retrace? before = some reached ∧ reached.haul? haul = none := by
  induction hauls generalizing piles with
  | nil => cases stuck
  | cons haul hauls inductionHypothesis =>
      cases step : piles.haul? haul with
      | none => exact ⟨[], haul, hauls, piles, rfl, rfl, step⟩
      | some next =>
          rw [retrace?_cons, step, Option.bind_some] at stuck
          obtain ⟨before, other, later, reached, rfl, made, refused⟩ := inductionHypothesis stuck
          refine ⟨haul :: before, other, later, reached, rfl, ?_, refused⟩
          rw [retrace?_cons, step, Option.bind_some, made]

end Piles

end LogPiles
