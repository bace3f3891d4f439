import LogPiles.Size

/-!
# Hops and moves

A `Hop` says between which sites the top log of a pile goes.  A `Move` is a hop
that was made: it also knows its number in the run and the log that went.
-/

namespace LogPiles

/-- Take the top log of `source` and put it on `target`. -/
structure Hop where
  source : Site
  target : Site
  deriving DecidableEq

/-- A hop that was made. -/
structure Move where
  /-- Number of the move in its run; the first one is `1`. -/
  step : Nat
  log : Log
  source : Site
  target : Site
  deriving DecidableEq

/-- The sites of a move. -/
def Move.hop (move : Move) : Hop := ⟨move.source, move.target⟩

/-- One line of text for a move, such as `#3 log 1 Base -> Hideout`. -/
def Move.text (move : Move) : String :=
  s!"#{move.step} log {move.log} {move.source.label} -> {move.target.label}"

/-- All hops from one site to another, by source and then by target. -/
def Hop.all : List Hop :=
  Site.all.flatMap fun source =>
    (Site.all.filter (· ≠ source)).map fun target => ⟨source, target⟩

theorem Hop.mem_all {hop : Hop} : hop ∈ Hop.all ↔ hop.source ≠ hop.target := by
  obtain ⟨source, target⟩ := hop
  cases source <;> cases target <;> decide

theorem Hop.all_nodup : Hop.all.Nodup := by decide

end LogPiles
