import Mathlib.Data.List.Sort
import Mathlib.Logic.Function.Basic
import LogPiles.Piles

/-!
# Placements

A position in which every log lies somewhere, and none on a smaller one, holds
no more than this: on which site each log lies.  A `Placement` is that function,
and `Placement.piles` the position it stands for, every site listing its logs in
ascending order.

The rule of the game becomes simple when it is said of placements: a log may
leave its site for another one when no smaller log lies on either of the two
(`Placement.Legal`).  `Placement.next?_piles` is the dictionary: a step of the
game from the position of a placement changes the placement at one log, and
every such change is a step of the game.
-/

namespace LogPiles

/-- On which site each log lies. -/
abbrev Placement := Log → Site

namespace Placement

variable {size : Nat} {place : Placement} {log : Log} {site target : Site} {hop : Hop}

/-- The position in which the logs of a lair of this size are so placed. -/
def piles (size : Nat) (place : Placement) : Piles where
  forest := (logsUpTo size).filter (place · = .forest)
  base := (logsUpTo size).filter (place · = .base)
  hideout := (logsUpTo size).filter (place · = .hideout)

/-- The placement after one log went to another site. -/
def move (place : Placement) (log : Log) (target : Site) : Placement :=
  Function.update place log target

@[simp]
theorem move_self (place : Placement) (log : Log) (target : Site) :
    place.move log target log = target := Function.update_self ..

theorem move_of_ne (place : Placement) {log other : Log} (target : Site) (distinct : other ≠ log) :
    place.move log target other = place other := Function.update_of_ne distinct ..

theorem get_piles (size : Nat) (place : Placement) (site : Site) :
    (place.piles size).get site = (logsUpTo size).filter (place · = site) := by
  cases site <;> rfl

theorem mem_get_piles :
    log ∈ (place.piles size).get site ↔ log ∈ logsUpTo size ∧ place log = site := by
  simp [get_piles]

theorem ascending_get_piles (size : Nat) (place : Placement) (site : Site) :
    ((place.piles size).get site).Pairwise (· < ·) := by
  rw [get_piles]
  exact List.Pairwise.filter _ List.pairwise_lt_range'

/-- An ascending list is the pile of a site when it holds the logs that are placed there. -/
theorem eq_get_piles {logs : List Log} (ascending : logs.Pairwise (· < ·))
    (members : ∀ log, log ∈ logs ↔ log ∈ logsUpTo size ∧ place log = site) :
    logs = (place.piles size).get site :=
  ascending.eq_of_mem_iff (ascending_get_piles size place site)
    fun log => (members log).trans mem_get_piles.symm

/-- A position that holds every log once, each site in ascending order, is that of a placement. -/
theorem exists_eq_piles {position : Piles} (whole : position.logs.Perm (logsUpTo size))
    (ascending : ∀ site, (position.get site).Pairwise (· < ·)) :
    ∃ place : Placement, position = place.piles size := by
  have somewhere : ∀ log ∈ logsUpTo size, ∃ site, log ∈ position.get site := by
    intro log inside
    exact Piles.mem_logs.1 (whole.mem_iff.2 inside)
  have once : position.logs.Nodup := whole.nodup_iff.2 List.nodup_range'
  have : Nonempty Site := ⟨.forest⟩
  choose! place placed using somewhere
  refine ⟨place, PerSite.ext_get fun site => eq_get_piles (ascending site) fun log => ?_⟩
  constructor
  · intro here
    have known := whole.mem_iff.1 (Piles.mem_logs.2 ⟨site, here⟩)
    exact ⟨known, Piles.site_unique once (placed log known) here⟩
  · rintro ⟨known, rfl⟩
    exact placed log known

/-- The position of a placement holds every log once. -/
theorem logs_piles_perm (size : Nat) (place : Placement) :
    (place.piles size).logs.Perm (logsUpTo size) := by
  rw [List.perm_iff_count]
  intro log
  -- a log counts where it is placed and nowhere else
  have elsewhere : ∀ site, place log ≠ site →
      ((logsUpTo size).filter (place · = site)).count log = 0 := by
    intro site distinct
    rw [List.count_eq_zero]
    intro inside
    exact distinct (by simpa using (List.mem_filter.1 inside).2)
  have here : ∀ site, place log = site →
      ((logsUpTo size).filter (place · = site)).count log = (logsUpTo size).count log := by
    intro site same
    exact List.count_filter (by simp [same])
  simp only [Piles.logs, PerSite.toList, piles, List.flatten_cons, List.flatten_nil,
    List.append_nil, List.count_append]
  cases same : place log <;> simp [same, here, elsewhere]

/-- All logs up to a size lie on one site. -/
def Gathered (size : Nat) (site : Site) (place : Placement) : Prop :=
  ∀ log ∈ logsUpTo size, place log = site

/-- A site with as many logs as there are has them all. -/
theorem gathered_of_length (full : ((place.piles size).get site).length = size) :
    place.Gathered size site := by
  have all : ((logsUpTo size).filter (place · = site)).length = (logsUpTo size).length := by
    rw [length_logsUpTo, ← get_piles, full]
  intro log inside
  simpa using List.length_filter_eq_length_iff.1 all log inside

/-- A gathered placement is known from its site. -/
theorem Gathered.piles_eq (gathered : place.Gathered size site) :
    place.piles size = piles size (fun _ => site) := by
  refine PerSite.ext_get fun other => ?_
  rw [get_piles, get_piles]
  apply List.filter_congr
  intro log inside
  rw [gathered log inside]

/-- All logs on one site. -/
theorem piles_gathered (size : Nat) (site : Site) :
    piles size (fun _ => site) = (PerSite.replicate []).set site (logsUpTo size) := by
  refine PerSite.ext_get fun other => ?_
  rw [get_piles, PerSite.get_set, PerSite.get_replicate]
  by_cases same : other = site
  · simp [same]
  · simp [same, Ne.symm same]

theorem piles_forest (size : Nat) : piles size (fun _ => .forest) = Piles.start size :=
  piles_gathered size .forest

/-- The top log is the smallest of those that are placed there. -/
theorem top?_piles :
    (place.piles size).top? site = some log ↔
      log ∈ logsUpTo size ∧ place log = site ∧
        ∀ smaller ∈ logsUpTo size, smaller < log → place smaller ≠ site := by
  rw [Piles.top?, get_piles, List.head?_filter, logsUpTo, List.find?_range'_eq_some]
  simp only [decide_eq_true_eq, Bool.not_eq_true', decide_eq_false_iff_not]
  constructor
  · rintro ⟨here, known, least⟩
    refine ⟨known, here, ?_⟩
    intro smaller inside below
    exact least smaller (List.mem_range'_1.1 inside).1 below
  · rintro ⟨known, here, least⟩
    refine ⟨here, known, ?_⟩
    intro smaller positive below
    refine least smaller ?_ below
    rw [List.mem_range'_1] at known ⊢
    omega

/-- The rule of the game: a log may leave its site for another one when no smaller log lies
on either of them. -/
structure Legal (size : Nat) (place : Placement) (log : Log) (target : Site) : Prop where
  known : log ∈ logsUpTo size
  leaves : place log ≠ target
  clear : ∀ smaller ∈ logsUpTo size, smaller < log →
    place smaller ≠ place log ∧ place smaller ≠ target

namespace Legal

/-- A log that may leave its site lies on top of it. -/
theorem top? (legal : Legal size place log target) :
    (place.piles size).top? (place log) = some log := by
  rw [top?_piles]
  refine ⟨legal.known, rfl, ?_⟩
  intro smaller inside below
  exact (legal.clear smaller inside below).1

/-- A log that may reach a site is smaller than all that lie there. -/
theorem lt_of_placed (legal : Legal size place log target) {other : Log}
    (known : other ∈ logsUpTo size) (there : place other = target) : log < other := by
  rcases Nat.lt_trichotomy log other with above | same | below
  · exact above
  · exact absurd (same ▸ there) legal.leaves
  · exact absurd there (legal.clear other known below).2

end Legal

theorem canHop_piles :
    (place.piles size).canHop hop = true ↔
      ∃ log, place log = hop.source ∧ Legal size place log hop.target := by
  rw [Piles.canHop_iff]
  constructor
  · rintro ⟨apart, log, top, fits⟩
    obtain ⟨known, here, least⟩ := top?_piles.1 top
    refine ⟨log, here, known, here ▸ apart, ?_⟩
    intro smaller inside below
    refine ⟨here ▸ least smaller inside below, ?_⟩
    intro there
    -- then the top log of the target would be no larger than this one
    cases other : (place.piles size).top? hop.target with
    | none =>
        rw [Piles.top?_eq_none_iff] at other
        have held := mem_get_piles.2 ⟨inside, there⟩
        rw [other] at held
        cases held
    | some lowest =>
        have larger := fits lowest other
        exact (top?_piles.1 other).2.2 smaller inside (Nat.lt_trans below larger) there
  · rintro ⟨log, here, legal⟩
    refine ⟨here ▸ legal.leaves, log, here ▸ legal.top?, ?_⟩
    intro lowest other
    obtain ⟨known, there, -⟩ := top?_piles.1 other
    exact legal.lt_of_placed known there

theorem carry_piles (here : place log = hop.source) (legal : Legal size place log hop.target) :
    (place.piles size).carry hop = (place.move log hop.target).piles size := by
  have apart : hop.source ≠ hop.target := here ▸ legal.leaves
  have top : (place.piles size).top? hop.source = some log := here ▸ legal.top?
  obtain ⟨rest, held⟩ := Piles.top?_eq_some_iff.1 top
  have ascending := held ▸ ascending_get_piles size place hop.source
  have in_rest : ∀ other, other ∈ rest ↔
      other ≠ log ∧ other ∈ logsUpTo size ∧ place other = hop.source := by
    intro other
    rw [← mem_get_piles, held, List.mem_cons]
    have distinct : other ∈ rest → other ≠ log := by
      intro inside
      exact (Nat.ne_of_lt (List.rel_of_pairwise_cons ascending inside)).symm
    tauto
  -- each site lists in order the logs that the new placement puts there, so it is that list
  refine PerSite.ext_get fun site => ?_
  rw [Piles.get_carry apart held]
  by_cases at_target : site = hop.target
  · rw [if_pos at_target, at_target]
    refine eq_get_piles (List.pairwise_cons.2 ⟨?_, ascending_get_piles ..⟩) fun other => ?_
    · intro other inside
      obtain ⟨known, there⟩ := mem_get_piles.1 inside
      exact legal.lt_of_placed known there
    · rw [List.mem_cons, mem_get_piles]
      by_cases same : other = log
      · simp [same, legal.known]
      · simp [same, move_of_ne]
  · rw [if_neg at_target]
    by_cases at_source : site = hop.source
    · rw [if_pos at_source, at_source]
      refine eq_get_piles (List.pairwise_cons.1 ascending).2 fun other => ?_
      rw [in_rest]
      by_cases same : other = log
      · simp [same, apart.symm]
      · simp [same, move_of_ne]
    · rw [if_neg at_source]
      refine eq_get_piles (ascending_get_piles ..) fun other => ?_
      rw [mem_get_piles]
      by_cases same : other = log
      · simp [same, here, Ne.symm at_source, Ne.symm at_target]
      · simp [move_of_ne, same]

/-- A step of the game changes the placement at one log, as the rule allows. -/
theorem next?_piles {next : Piles} :
    (place.piles size).next? hop = some next ↔
      ∃ log, place log = hop.source ∧ Legal size place log hop.target ∧
        next = (place.move log hop.target).piles size := by
  rw [Piles.next?_eq_some_iff, canHop_piles]
  constructor
  · rintro ⟨⟨log, here, legal⟩, rfl⟩
    exact ⟨log, here, legal, carry_piles here legal⟩
  · rintro ⟨log, here, legal, rfl⟩
    exact ⟨⟨log, here, legal⟩, carry_piles here legal⟩

end Placement

end LogPiles
