import Mathlib.Algebra.Ring.Nat
import LogPiles.Proofs.Placement

/-!
# How far a placement is from its goal

`Placement.distance` counts, from the largest log down, what remains to be done
to gather the logs on one site: a log that lies elsewhere has to move once, and
before it can, all smaller ones must be gathered on the third site.

Two facts make this number a measure of paths.  No legal move brings a placement
more than one move closer (`Legal.distance_le`), and at most one legal move does
(`Legal.descent_unique`).  The first gives the lower bound on every path,
`distance_le_length`; the second makes a path that attains the bound the only
one, `shortest_path_unique`.  Nothing has to be said about the order in which a
path moves the large logs, nor about how often.
-/

namespace LogPiles

namespace Placement

variable {size : Nat} {place other : Placement} {log : Log} {goal site target spare : Site}

/-- What it takes to gather the logs up to a size on a site. -/
def distance (place : Placement) : Nat → Site → Nat
  | 0, _ => 0
  | size + 1, goal =>
    if place (size + 1) = goal then place.distance size goal
    else 2 ^ size + place.distance size (Site.third (place (size + 1)) goal)

theorem distance_succ_of_eq (here : place (size + 1) = goal) :
    place.distance (size + 1) goal = place.distance size goal := by
  rw [distance, if_pos here]

theorem distance_succ_of_roles (here : place (size + 1) = site)
    (roles : Site.Roles site goal spare) :
    place.distance (size + 1) goal = 2 ^ size + place.distance size spare := by
  rw [distance, here, if_neg roles.source_ne_target, roles.third_eq]

/-- Where the largest log lies decides what remains for the smaller ones. -/
theorem exists_distance_succ (size : Nat) (place : Placement) (goal : Site) :
    ∃ cost subgoal, ∀ other : Placement, other (size + 1) = place (size + 1) →
      other.distance (size + 1) goal = cost + other.distance size subgoal := by
  by_cases here : place (size + 1) = goal
  · refine ⟨0, goal, ?_⟩
    intro other same
    rw [distance_succ_of_eq (same.trans here), Nat.zero_add]
  · refine ⟨2 ^ size, Site.third (place (size + 1)) goal, ?_⟩
    intro other same
    exact distance_succ_of_roles same (Site.roles_third here)

theorem mem_logsUpTo_succ {size log : Nat} :
    log ∈ logsUpTo (size + 1) ↔ log ∈ logsUpTo size ∨ log = size + 1 := by
  simp only [mem_logsUpTo]
  omega

theorem Gathered.largest (gathered : place.Gathered (size + 1) site) : place (size + 1) = site :=
  gathered (size + 1) (mem_logsUpTo_succ.2 (.inr rfl))

theorem Gathered.smaller (gathered : place.Gathered (size + 1) site) : place.Gathered size site :=
  fun log inside => gathered log (mem_logsUpTo_succ.2 (.inl inside))

/-- Nothing remains to be done where all logs lie already. -/
theorem Gathered.distance_eq_zero (gathered : place.Gathered size goal) :
    place.distance size goal = 0 := by
  induction size with
  | zero => rfl
  | succ size inductionHypothesis =>
      rw [distance_succ_of_eq gathered.largest, inductionHypothesis gathered.smaller]

/-- A whole stack is as far away as can be. -/
theorem Gathered.distance_of_ne (gathered : place.Gathered size site) (distinct : site ≠ goal) :
    place.distance size goal = 2 ^ size - 1 := by
  induction size generalizing goal with
  | zero => rfl
  | succ size inductionHypothesis =>
      have roles := Site.roles_third distinct
      have rest := inductionHypothesis gathered.smaller roles.source_ne_spare
      have positive : 0 < 2 ^ size := Nat.two_pow_pos size
      rw [distance_succ_of_roles gathered.largest roles, rest, Nat.pow_succ]
      omega

namespace Legal

/-- Before the largest log can move, all smaller ones are on the third site. -/
theorem gathered (legal : Legal (size + 1) place (size + 1) target)
    (roles : Site.Roles (place (size + 1)) target spare) : place.Gathered size spare := by
  intro log inside
  have below : log < size + 1 := Nat.lt_succ_of_le (mem_logsUpTo.1 inside).2
  obtain ⟨not_source, not_target⟩ := legal.clear log (mem_logsUpTo_succ.2 (.inl inside)) below
  rcases roles.exhaust (place log) with at_source | at_target | at_spare
  · exact absurd at_source not_source
  · exact absurd at_target not_target
  · exact at_spare

/-- The largest log is in the way of no other. -/
theorem smaller (legal : Legal (size + 1) place log target) (distinct : log ≠ size + 1) :
    Legal size place log target where
  known := (mem_logsUpTo_succ.1 legal.known).resolve_right distinct
  leaves := legal.leaves
  clear := fun other inside => legal.clear other (mem_logsUpTo_succ.2 (.inl inside))

/-- A move of the largest log brings the placement closer only if it goes to the goal, and then
nothing remained to be done before it. -/
theorem distance_largest (legal : Legal (size + 1) place (size + 1) target) (goal : Site) :
    (goal = target ∧ place.distance size (Site.third (place (size + 1)) goal) = 0 ∧
        place.distance (size + 1) goal =
          (place.move (size + 1) target).distance (size + 1) goal + 1) ∨
      (goal ≠ target ∧ place.distance (size + 1) goal ≤
        (place.move (size + 1) target).distance (size + 1) goal) := by
  have roles := Site.roles_third legal.leaves
  have before := legal.gathered roles
  have moved : (place.move (size + 1) target) (size + 1) = target := move_self ..
  have after : (place.move (size + 1) target).Gathered size
      (Site.third (place (size + 1)) target) := by
    intro log inside
    have distinct : log ≠ size + 1 := Nat.ne_of_lt (Nat.lt_succ_of_le (mem_logsUpTo.1 inside).2)
    rw [move_of_ne place target distinct]
    exact before log inside
  have positive : 0 < 2 ^ size := Nat.two_pow_pos size
  rcases roles.exhaust goal with rfl | rfl | rfl
  · refine .inr ⟨roles.source_ne_target, ?_⟩
    rw [distance_succ_of_eq rfl, before.distance_of_ne roles.source_ne_spare.symm,
      distance_succ_of_roles moved roles.swap]
    omega
  · refine .inl ⟨rfl, before.distance_eq_zero, ?_⟩
    rw [distance_succ_of_roles rfl roles, before.distance_eq_zero, distance_succ_of_eq moved,
      after.distance_of_ne roles.target_ne_spare.symm]
    omega
  · refine .inr ⟨roles.target_ne_spare.symm, ?_⟩
    rw [distance_succ_of_roles rfl roles.aside, before.distance_of_ne roles.target_ne_spare.symm,
      distance_succ_of_roles moved roles.swap.aside,
      after.distance_of_ne roles.source_ne_spare.symm]

/-- No legal move brings a placement more than one move closer. -/
theorem distance_le (legal : Legal size place log target) (goal : Site) :
    place.distance size goal ≤ (place.move log target).distance size goal + 1 := by
  induction size generalizing goal with
  | zero => exact Nat.zero_le _
  | succ size inductionHypothesis =>
      by_cases largest : log = size + 1
      · subst largest
        rcases legal.distance_largest goal with ⟨-, -, closer⟩ | ⟨-, farther⟩
        · exact Nat.le_of_eq closer
        · exact Nat.le_succ_of_le farther
      · obtain ⟨cost, subgoal, split⟩ := exists_distance_succ size place goal
        rw [split place rfl, split _ (move_of_ne place target (Ne.symm largest)), Nat.add_assoc]
        exact Nat.add_le_add_left (inductionHypothesis (legal.smaller largest) subgoal) cost

/-- If moving the largest log brings the placement closer, it goes to the goal, and nothing
else remains to be done. -/
theorem of_descent_largest (legal : Legal (size + 1) place (size + 1) target)
    (descent : place.distance (size + 1) goal =
      (place.move (size + 1) target).distance (size + 1) goal + 1) :
    goal = target ∧ place.distance size (Site.third (place (size + 1)) goal) = 0 := by
  rcases legal.distance_largest goal with ⟨arrives, done, -⟩ | ⟨-, farther⟩
  · exact ⟨arrives, done⟩
  · omega

/-- If the largest log can be moved closer, no smaller one can. -/
theorem not_descent_of_largest (legal : Legal (size + 1) place (size + 1) target)
    (descent : place.distance (size + 1) goal =
      (place.move (size + 1) target).distance (size + 1) goal + 1)
    (distinct : log ≠ size + 1) :
    place.distance (size + 1) goal ≠ (place.move log site).distance (size + 1) goal + 1 := by
  obtain ⟨rfl, done⟩ := legal.of_descent_largest descent
  have roles := Site.roles_third legal.leaves
  have same : (place.move log site) (size + 1) = place (size + 1) :=
    move_of_ne place site (Ne.symm distinct)
  rw [distance_succ_of_roles rfl roles, distance_succ_of_roles same roles, done]
  omega

/-- At most one legal move brings a placement closer. -/
theorem descent_unique {first second : Log} {here there : Site}
    (legal : Legal size place first here) (legal' : Legal size place second there)
    (descent : place.distance size goal = (place.move first here).distance size goal + 1)
    (descent' : place.distance size goal = (place.move second there).distance size goal + 1) :
    first = second ∧ here = there := by
  -- the largest log decides if one of the two is it, and the smaller logs do otherwise
  induction size generalizing goal with
  | zero => cases descent
  | succ size inductionHypothesis =>
      by_cases largest : first = size + 1
      · subst largest
        by_cases largest' : second = size + 1
        · subst largest'
          have to_here := (legal.of_descent_largest descent).1
          have to_there := (legal'.of_descent_largest descent').1
          exact ⟨rfl, to_here.symm.trans to_there⟩
        · exact absurd descent' (legal.not_descent_of_largest descent largest')
      · by_cases largest' : second = size + 1
        · subst largest'
          exact absurd descent (legal'.not_descent_of_largest descent' largest)
        · -- the largest log stays, so both come closer to one and the same smaller goal
          obtain ⟨cost, subgoal, split⟩ := exists_distance_succ size place goal
          rw [split place rfl, split _ (move_of_ne place _ (Ne.symm largest))] at descent
          rw [split place rfl, split _ (move_of_ne place _ (Ne.symm largest'))] at descent'
          have nearer : place.distance size subgoal =
              (place.move first here).distance size subgoal + 1 := by omega
          have nearer' : place.distance size subgoal =
              (place.move second there).distance size subgoal + 1 := by omega
          exact inductionHypothesis (legal.smaller largest) (legal'.smaller largest')
            nearer nearer'

end Legal

/-! ## Paths -/

/-- A path leads from placement to placement, and no path is shorter than what remains to be
done at its start and is done at its end. -/
theorem exists_of_path {hops : List Hop} {final : Piles}
    (path : (place.piles size).follow? hops = some final) (goal : Site) :
    ∃ last : Placement, final = last.piles size ∧
      place.distance size goal ≤ last.distance size goal + hops.length := by
  induction hops generalizing place with
  | nil =>
      cases path
      exact ⟨place, rfl, Nat.le_refl _⟩
  | cons hop hops inductionHypothesis =>
      rw [Piles.follow?_cons] at path
      obtain ⟨next, step, rest⟩ := Option.bind_eq_some_iff.1 path
      obtain ⟨log, -, legal, rfl⟩ := next?_piles.1 step
      obtain ⟨last, same, bound⟩ := inductionHypothesis rest
      refine ⟨last, same, ?_⟩
      have closer := legal.distance_le goal
      rw [List.length_cons]
      omega

/-- Only a stack of all logs fills the hideout. -/
theorem gathered_of_solved (solved : (place.piles size).solved size = true) :
    place.Gathered size .hideout :=
  gathered_of_length (by simpa [Piles.solved, PerSite.get] using solved)

/-- A path to the hideout is at least as long as what remains to be done. -/
theorem distance_le_length {hops : List Hop} {final : Piles}
    (path : (place.piles size).follow? hops = some final)
    (solved : final.solved size = true) : place.distance size .hideout ≤ hops.length := by
  obtain ⟨last, rfl, bound⟩ := exists_of_path path .hideout
  rwa [(gathered_of_solved solved).distance_eq_zero, Nat.zero_add] at bound

/-- There is only one path to the hideout that is no longer than it has to be. -/
theorem shortest_path_unique {hops others : List Hop} {final last : Piles}
    (path : (place.piles size).follow? hops = some final) (solved : final.solved size = true)
    (short : hops.length = place.distance size .hideout)
    (path' : (place.piles size).follow? others = some last) (solved' : last.solved size = true)
    (short' : others.length = place.distance size .hideout) : hops = others := by
  induction hops generalizing place others with
  | nil =>
      rw [List.length_nil] at short
      rw [← short] at short'
      exact (List.length_eq_zero_iff.1 short').symm
  | cons hop hops inductionHypothesis =>
      cases others with
      | nil =>
          rw [List.length_nil] at short'
          rw [← short'] at short
          cases short
      | cons other others =>
          rw [Piles.follow?_cons] at path path'
          rw [List.length_cons] at short short'
          obtain ⟨next, step, rest⟩ := Option.bind_eq_some_iff.1 path
          obtain ⟨next', step', rest'⟩ := Option.bind_eq_some_iff.1 path'
          obtain ⟨log, source, legal, rfl⟩ := next?_piles.1 step
          obtain ⟨log', source', legal', rfl⟩ := next?_piles.1 step'
          -- both first moves bring the placement closer, since both rests suffice
          have closer := legal.distance_le .hideout
          have closer' := legal'.distance_le .hideout
          have suffices_rest := distance_le_length rest solved
          have suffices_rest' := distance_le_length rest' solved'
          have descent : place.distance size .hideout =
              (place.move log hop.target).distance size .hideout + 1 := by omega
          have descent' : place.distance size .hideout =
              (place.move log' other.target).distance size .hideout + 1 := by omega
          obtain ⟨rfl, same⟩ := legal.descent_unique legal' descent descent'
          have same_hop : hop = other := by
            obtain ⟨from_site, to_site⟩ := hop
            obtain ⟨from_site', to_site'⟩ := other
            simp_all
          subst same_hop
          rw [inductionHypothesis rest (by omega) rest' (by omega)]

end Placement

end LogPiles
