import LogPiles.Itinerary

/-!
# The flow of a list of hops

How many logs a site gains or loses on the way is known from the hops alone, as
long as the rule of the game allows them (`Piles.length_follow?`).  An itinerary
takes its count from its source, brings it to its target, and leaves its spare
site as it was (`flow_itinerary`).

So a script can only be followed to its end from a position whose forest holds
as many logs as the script has to move: `Piles.length_forest_of_script`.  No
other position has to be looked at.
-/

namespace LogPiles

/-- How often a log leaves a site. -/
def departures (site : Site) (hops : List Hop) : Nat := hops.countP (·.source = site)

/-- How often a log reaches a site. -/
def arrivals (site : Site) (hops : List Hop) : Nat := hops.countP (·.target = site)

theorem departures_cons (site : Site) (hop : Hop) (hops : List Hop) :
    departures site (hop :: hops) =
      departures site hops + if hop.source = site then 1 else 0 := by
  simp [departures, List.countP_cons]

theorem arrivals_cons (site : Site) (hop : Hop) (hops : List Hop) :
    arrivals site (hop :: hops) =
      arrivals site hops + if hop.target = site then 1 else 0 := by
  simp [arrivals, List.countP_cons]

theorem departures_append (site : Site) (hops more : List Hop) :
    departures site (hops ++ more) = departures site hops + departures site more :=
  List.countP_append

theorem arrivals_append (site : Site) (hops more : List Hop) :
    arrivals site (hops ++ more) = arrivals site hops + arrivals site more :=
  List.countP_append

namespace Piles

variable {piles final : Piles} {hop : Hop} {hops : List Hop}

/-- A legal hop takes a log from its source to its target. -/
theorem length_carry (legal : piles.canHop hop = true) (site : Site) :
    ((piles.carry hop).get site).length + (if hop.source = site then 1 else 0) =
      (piles.get site).length + if hop.target = site then 1 else 0 := by
  obtain ⟨apart, log, top, -⟩ := canHop_iff.1 legal
  obtain ⟨rest, held⟩ := top?_eq_some_iff.1 top
  rw [get_carry apart held]
  by_cases at_target : hop.target = site
  · subst at_target
    simp [apart]
  · by_cases at_source : hop.source = site
    · subst at_source
      simp [apart, held, Ne.symm apart]
    · simp [at_source, at_target, Ne.symm at_source, Ne.symm at_target]

/-- Along a path every site has gained what arrived and lost what departed. -/
theorem length_follow? (path : piles.follow? hops = some final) (site : Site) :
    (final.get site).length + departures site hops =
      (piles.get site).length + arrivals site hops := by
  induction hops generalizing piles with
  | nil =>
      cases path
      rfl
  | cons hop hops inductionHypothesis =>
      rw [follow?_cons] at path
      obtain ⟨next, step, rest⟩ := Option.bind_eq_some_iff.1 path
      obtain ⟨legal, rfl⟩ := next?_eq_some_iff.1 step
      have first := length_carry legal site
      have later := inductionHypothesis rest
      rw [departures_cons, arrivals_cons]
      omega

end Piles

/-- An itinerary moves its count from its source to its target. -/
theorem flow_itinerary (source target spare : Site) (count : Nat) (site : Site) :
    departures site (itinerary source target spare count) + (if target = site then count else 0) =
      arrivals site (itinerary source target spare count) +
        if source = site then count else 0 := by
  induction count generalizing source target spare with
  | zero => simp [itinerary, departures, arrivals]
  | succ count inductionHypothesis =>
      have aside := inductionHypothesis source spare target
      have back := inductionHypothesis spare target source
      have one_more : ∀ here : Site, (if here = site then count + 1 else 0) =
          (if here = site then count else 0) + if here = site then 1 else 0 := by
        intro here
        split <;> rfl
      simp only [itinerary, departures_append, arrivals_append, departures_cons, arrivals_cons,
        one_more]
      -- what `aside` brings to the spare site `back` takes from it
      omega

/-- A path along a script starts with all its logs in the forest, and more at the end only if
there were more. -/
theorem Piles.length_forest_of_script {piles final : Piles} {size : Nat}
    (path : piles.follow? (itinerary .forest .hideout .base size) = some final) :
    piles.forest.length = final.forest.length + size := by
  have moved := length_follow? path .forest
  have flow := flow_itinerary .forest .hideout .base size .forest
  simp only [reduceCtorEq, if_true, if_false, Nat.add_zero, PerSite.get] at moved flow
  omega

end LogPiles
