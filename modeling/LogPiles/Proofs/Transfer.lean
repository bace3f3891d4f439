import Mathlib.Data.List.Induction
import LogPiles.Proofs.Chronicle

/-!
# What a transfer brings about

The itinerary of a transfer moves a stack of logs as a whole, whatever lies
under it and on the other two sites, as long as every log of the stack is
smaller than all that it may come to lie on.  `Piles.retrace?_convoy` is this
statement, and it names the log that goes with each hop.  It is stronger than
what solving a lair needs, and has to be: in both halves of a transfer the
largest log lies under the stack or beside it.
-/

namespace LogPiles

variable {σ : Type}

/-- The hauls that bring some logs, of which the largest comes first, from `source` to `target`. -/
def convoy (source target spare : Site) : List Log → List Haul
  | [] => []
  | large :: small =>
    convoy source spare target small ++
      ⟨large, source, target⟩ :: convoy spare target source small

/-- Whatever the logs are, their hauls have the hops of the itinerary. -/
theorem hops_convoy (source target spare : Site) (logs : List Log) :
    (convoy source target spare logs).map Haul.hop =
      itinerary source target spare logs.length := by
  induction logs generalizing source target spare with
  | nil => rfl
  | cons large small inductionHypothesis =>
      simp [convoy, itinerary, inductionHypothesis, Haul.hop]

namespace Piles

/-- The stack on top of `rest` may be moved: it ascends, and each of its logs is smaller
than the top of every site without the stack. -/
structure Movable (piles : Piles) (source : Site) (stack rest : List Log) : Prop where
  held : piles.get source = stack ++ rest
  ascending : stack.Pairwise (· < ·)
  fits : ∀ log ∈ stack, ∀ site, ∀ below ∈ ((piles.set source rest).get site).head?, log < below

/-- The middle of a transfer: the smaller logs of the stack are on the spare site, and the
largest lies bare on what was under it. -/
def parted (piles : Piles) (source spare : Site) (small : List Log) (large : Log)
    (rest : List Log) : Piles :=
  (piles.set source (large :: rest)).modify spare (small ++ ·)

section Middle

variable {piles : Piles} {source target spare : Site} {small rest : List Log} {large : Log}

theorem get_parted_source (roles : Site.Roles source target spare) :
    (piles.parted source spare small large rest).get source = large :: rest := by
  unfold parted
  rw [PerSite.get_modify_ne _ _ roles.source_ne_spare, PerSite.get_set_self]

theorem get_parted_target (roles : Site.Roles source target spare) :
    (piles.parted source spare small large rest).get target = piles.get target := by
  unfold parted
  rw [PerSite.get_modify_ne _ _ roles.target_ne_spare,
    PerSite.get_set_ne _ _ roles.source_ne_target.symm]

theorem get_parted_spare (roles : Site.Roles source target spare) :
    (piles.parted source spare small large rest).get spare = small ++ piles.get spare := by
  unfold parted
  rw [PerSite.get_modify_self, PerSite.get_set_ne _ _ roles.source_ne_spare.symm]

/-- The largest log goes to the target. -/
theorem get_carry_parted (roles : Site.Roles source target spare) (site : Site) :
    ((piles.parted source spare small large rest).carry ⟨source, target⟩).get site =
      if site = target then large :: piles.get target
      else if site = source then rest
      else (piles.parted source spare small large rest).get site := by
  have hop : (⟨source, target⟩ : Hop).source ≠ (⟨source, target⟩ : Hop).target :=
    roles.source_ne_target
  rw [get_carry hop (get_parted_source roles), get_parted_target roles]

/-- With the smaller logs on top of the largest again, the stack has been moved as a whole. -/
theorem reunite_parted (roles : Site.Roles source target spare) :
    (((piles.parted source spare small large rest).carry ⟨source, target⟩).set spare
        (piles.get spare)).modify target (small ++ ·) =
      (piles.set source rest).modify target (small ++ [large] ++ ·) := by
  refine PerSite.ext_get fun site => ?_
  rcases roles.exhaust site with rfl | rfl | rfl
  · rw [PerSite.get_modify_ne _ _ roles.source_ne_target,
      PerSite.get_set_ne _ _ roles.source_ne_spare, get_carry_parted roles,
      if_neg roles.source_ne_target, if_pos rfl,
      PerSite.get_modify_ne _ _ roles.source_ne_target, PerSite.get_set_self]
  · rw [PerSite.get_modify_self, PerSite.get_set_ne _ _ roles.target_ne_spare,
      get_carry_parted roles, if_pos rfl, PerSite.get_modify_self,
      PerSite.get_set_ne _ _ roles.source_ne_target.symm, List.append_assoc,
      List.singleton_append]
  · rw [PerSite.get_modify_ne _ _ roles.target_ne_spare.symm, PerSite.get_set_self,
      PerSite.get_modify_ne _ _ roles.target_ne_spare.symm,
      PerSite.get_set_ne _ _ roles.source_ne_spare.symm]

end Middle

namespace Movable

variable {piles : Piles} {source target spare site : Site} {stack small rest : List Log}
  {large log below : Log}

/-- What the stack lies on is larger than each of its logs. -/
theorem lt_under (movable : piles.Movable source stack rest) (inside : log ∈ stack)
    (top : below ∈ rest.head?) : log < below := by
  refine movable.fits log inside source below ?_
  rwa [PerSite.get_set_self]

/-- What lies on top of another site is larger than each log of the stack. -/
theorem lt_beside (movable : piles.Movable source stack rest) (inside : log ∈ stack)
    (other : site ≠ source) (top : below ∈ (piles.get site).head?) : log < below := by
  refine movable.fits log inside site below ?_
  rwa [PerSite.get_set_ne _ _ other]

theorem lt_large (movable : piles.Movable source (small ++ [large]) rest)
    (inside : log ∈ small) : log < large :=
  (List.pairwise_append.1 movable.ascending).2.2 log inside large (List.mem_singleton_self large)

/-- All but the largest log of a stack may be moved too, off the largest. -/
theorem smaller (movable : piles.Movable source (small ++ [large]) rest) :
    piles.Movable source small (large :: rest) where
  held := by simpa using movable.held
  ascending := (List.pairwise_append.1 movable.ascending).1
  fits := by
    intro log inside site below top
    by_cases same : site = source
    · subst same
      rw [PerSite.get_set_self, List.head?_cons, Option.mem_some_iff] at top
      exact top ▸ movable.lt_large inside
    · rw [PerSite.get_set_ne _ _ same] at top
      exact movable.lt_beside (List.mem_append_left _ inside) same top

/-- In the middle of a transfer the rule allows the largest log to go to its target. -/
theorem canHop_parted (movable : piles.Movable source (small ++ [large]) rest)
    (roles : Site.Roles source target spare) :
    (piles.parted source spare small large rest).canHop ⟨source, target⟩ = true := by
  rw [canHop_iff]
  refine ⟨roles.source_ne_target, large, top?_eq_some_iff.2 ⟨rest, get_parted_source roles⟩, ?_⟩
  intro below top
  rw [top?, get_parted_target roles] at top
  have inside : large ∈ small ++ [large] := List.mem_append_right _ (List.mem_singleton_self large)
  exact movable.lt_beside inside roles.source_ne_target.symm top

/-- The smaller logs may then be moved again, now with the largest on the target. -/
theorem carry_parted (movable : piles.Movable source (small ++ [large]) rest)
    (roles : Site.Roles source target spare) :
    ((piles.parted source spare small large rest).carry ⟨source, target⟩).Movable spare small
      (piles.get spare) where
  held := by
    rw [get_carry_parted roles, if_neg roles.target_ne_spare.symm,
      if_neg roles.source_ne_spare.symm, get_parted_spare roles]
  ascending := (List.pairwise_append.1 movable.ascending).1
  fits := by
    intro log inside site below top
    have inside' : log ∈ small ++ [large] := List.mem_append_left _ inside
    rcases roles.exhaust site with rfl | rfl | rfl
    · rw [PerSite.get_set_ne _ _ roles.source_ne_spare, get_carry_parted roles,
        if_neg roles.source_ne_target, if_pos rfl] at top
      exact movable.lt_under inside' top
    · rw [PerSite.get_set_ne _ _ roles.target_ne_spare, get_carry_parted roles, if_pos rfl,
        List.head?_cons, Option.mem_some_iff] at top
      exact top ▸ movable.lt_large inside
    · rw [PerSite.get_set_self] at top
      exact movable.lt_beside inside' roles.source_ne_spare.symm top

end Movable

/-- A transfer takes the logs of a stack that may be moved one by one, and brings it to its target as
a whole. -/
theorem retrace?_convoy {piles : Piles} {source target spare : Site} {stack rest : List Log}
    (roles : Site.Roles source target spare) (movable : piles.Movable source stack rest) :
    piles.retrace? (convoy source target spare stack.reverse) =
      some ((piles.set source rest).modify target (stack ++ ·)) := by
  induction stack using List.reverseRecOn generalizing piles source target spare rest with
  | nil =>
      have unchanged : (piles.set source rest).modify target ([] ++ ·) = piles := by
        have held : rest = piles.get source := by simpa using movable.held.symm
        simp [held, PerSite.modify]
      rw [unchanged]
      rfl
  | append_singleton small large inductionHypothesis =>
      -- the smaller logs are moved twice, off the largest and then onto it
      have aside : piles.retrace? (convoy source spare target small.reverse) =
          some (piles.parted source spare small large rest) :=
        inductionHypothesis roles.aside movable.smaller
      have back := inductionHypothesis roles.back (movable.carry_parted roles)
      have bare : (piles.parted source spare small large rest).top? source = some large :=
        top?_eq_some_iff.2 ⟨rest, get_parted_source roles⟩
      have largest : (piles.parted source spare small large rest).haul? ⟨large, source, target⟩ =
          some ((piles.parted source spare small large rest).carry ⟨source, target⟩) :=
        haul?_of_canHop (movable.canHop_parted roles) bare
      rw [List.reverse_concat, convoy, retrace?_append, aside, Option.bind_some, retrace?_cons,
        largest, Option.bind_some, back, reunite_parted roles]

/-- A transfer brings a stack that may be moved to its target and changes nothing else. -/
theorem follow?_itinerary {piles : Piles} {source target spare : Site} {stack rest : List Log}
    (roles : Site.Roles source target spare) (movable : piles.Movable source stack rest) :
    piles.follow? (itinerary source target spare stack.length) =
      some ((piles.set source rest).modify target (stack ++ ·)) := by
  have path := follow?_of_retrace? (retrace?_convoy roles movable)
  rwa [hops_convoy, List.length_reverse] at path

theorem movable_start (size : Nat) : (start size).Movable .forest (logsUpTo size) [] where
  held := (List.append_nil _).symm
  ascending := List.pairwise_lt_range'
  fits := by
    intro log inside site below top
    cases site <;> cases top

/-- The script of a lair brings all logs from the forest to the hideout. -/
theorem follow?_script (size : Nat) :
    (start size).follow? (itinerary .forest .hideout .base size) =
      some ⟨[], [], logsUpTo size⟩ := by
  have moved := follow?_itinerary Site.roles_solve (movable_start size)
  rw [length_logsUpTo] at moved
  rw [moved]
  simp [start, PerSite.modify, PerSite.set, PerSite.get]

end Piles

end LogPiles
