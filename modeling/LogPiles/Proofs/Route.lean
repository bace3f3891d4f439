import LogPiles.Proofs.Distance
import LogPiles.Proofs.Haul

/-!
# Routes

Between positions of placements the hauls that the game can make are known from
the placement: each log has to lie where the haul says, and the rule for
placements has to allow it.  `Placement.Lawful` says this of a list of hauls,
`Placement.after` is where they lead, and `Placement.retrace?_piles` is the
dictionary.

Three facts about lawful hauls carry everything that follows.  They can be undone
in reverse order (`Lawful.back`).  Larger logs are never in their way
(`Lawful.larger`).  And they keep a difference: when the same hauls are lawful
from two placements, a log that lay on different sites before still does so
afterwards (`Lawful.eq_of_after_eq`), because the haul that moves it would have
to find it on both.
-/

namespace LogPiles

namespace Placement

variable {size : Nat} {place other : Placement} {log : Log} {target goal : Site} {haul : Haul}
  {hauls more : List Haul}

/-- Positions of placements are equal when every log lies on the same site. -/
theorem piles_eq_iff :
    place.piles size = other.piles size ↔ ∀ log ∈ logsUpTo size, place log = other log := by
  constructor
  · intro same log known
    have here : log ∈ (place.piles size).get (place log) := mem_get_piles.2 ⟨known, rfl⟩
    rw [same, mem_get_piles] at here
    exact here.2.symm
  · intro agree
    refine PerSite.ext_get fun site => ?_
    rw [get_piles, get_piles]
    apply List.filter_congr
    intro log known
    rw [agree log known]

/-- Where some hauls lead, allowed or not. -/
def after (place : Placement) : List Haul → Placement
  | [] => place
  | haul :: hauls => (place.move haul.log haul.target).after hauls

/-- The rule allows the hauls one after the other. -/
def Lawful (size : Nat) (place : Placement) : List Haul → Prop
  | [] => True
  | haul :: hauls =>
    place haul.log = haul.source ∧ Legal size place haul.log haul.target ∧
      (place.move haul.log haul.target).Lawful size hauls

@[simp]
theorem after_nil (place : Placement) : place.after [] = place := rfl

@[simp]
theorem after_cons (place : Placement) (haul : Haul) (hauls : List Haul) :
    place.after (haul :: hauls) = (place.move haul.log haul.target).after hauls := rfl

theorem after_append (place : Placement) (hauls more : List Haul) :
    place.after (hauls ++ more) = (place.after hauls).after more := by
  induction hauls generalizing place with
  | nil => rfl
  | cons haul hauls inductionHypothesis => exact inductionHypothesis _

theorem lawful_append :
    place.Lawful size (hauls ++ more) ↔
      place.Lawful size hauls ∧ (place.after hauls).Lawful size more := by
  induction hauls generalizing place with
  | nil => simp [Lawful]
  | cons haul hauls inductionHypothesis =>
      simp only [List.cons_append, Lawful, after_cons, inductionHypothesis, and_assoc]

/-- The game makes a haul when the log lies where the haul says and may leave. -/
theorem haul?_piles {next : Piles} :
    (place.piles size).haul? haul = some next ↔
      place haul.log = haul.source ∧ Legal size place haul.log haul.target ∧
        next = (place.move haul.log haul.target).piles size := by
  rw [Piles.haul?_eq_some_iff, next?_piles]
  constructor
  · rintro ⟨top, log, here, legal, rfl⟩
    -- the log that the hop takes is the one on top, which is the one that is named
    have named : log = haul.log := by
      have lies := legal.top?
      rw [here] at lies
      exact Option.some.inj (lies.symm.trans top)
    subst named
    exact ⟨here, legal, rfl⟩
  · rintro ⟨here, legal, rfl⟩
    exact ⟨here ▸ legal.top?, haul.log, here, legal, rfl⟩

/-- The game makes lawful hauls and no others. -/
theorem retrace?_piles {final : Piles} :
    (place.piles size).retrace? hauls = some final ↔
      place.Lawful size hauls ∧ final = (place.after hauls).piles size := by
  induction hauls generalizing place with
  | nil => simp [Lawful, eq_comm]
  | cons haul hauls inductionHypothesis =>
      rw [Piles.retrace?_cons, Option.bind_eq_some_iff]
      constructor
      · rintro ⟨next, step, rest⟩
        obtain ⟨here, legal, rfl⟩ := haul?_piles.1 step
        obtain ⟨lawful, same⟩ := inductionHypothesis.1 rest
        exact ⟨⟨here, legal, lawful⟩, same⟩
      · rintro ⟨⟨here, legal, lawful⟩, same⟩
        exact ⟨_, haul?_piles.2 ⟨here, legal, rfl⟩, inductionHypothesis.2 ⟨lawful, same⟩⟩

/-- A log that a lawful haul moves lies elsewhere afterwards. -/
theorem move_ne (legal : Legal size place log target) : place.move log target log ≠ place log := by
  rw [move_self]
  exact legal.leaves.symm

namespace Legal

/-- A log that was moved may go back. -/
theorem back (legal : Legal size place log target) :
    Legal size (place.move log target) log (place log) where
  known := legal.known
  leaves := move_ne legal
  clear := by
    intro smaller known below
    obtain ⟨not_source, not_target⟩ := legal.clear smaller known below
    rw [move_self, move_of_ne place target (Nat.ne_of_lt below)]
    exact ⟨not_target, not_source⟩

/-- A larger log is in nobody's way. -/
theorem larger (legal : Legal size place log target) : Legal (size + 1) place log target where
  known := mem_logsUpTo_succ.2 (.inl legal.known)
  leaves := legal.leaves
  clear := by
    intro smaller known below
    have within := (mem_logsUpTo.1 legal.known).2
    have positive := (mem_logsUpTo.1 known).1
    exact legal.clear smaller
      (mem_logsUpTo.2 ⟨positive, Nat.le_trans (Nat.le_of_lt below) within⟩) below

end Legal

/-- A log that goes and comes back has not moved. -/
theorem move_back (place : Placement) (log : Log) (target : Site) :
    (place.move log target).move log (place log) = place := by
  unfold move
  rw [Function.update_idem, Function.update_eq_self]

namespace Lawful

/-- Lawful hauls can be undone, the last one first. -/
theorem back (lawful : place.Lawful size hauls) :
    (place.after hauls).Lawful size (hauls.map Haul.back).reverse ∧
      (place.after hauls).after (hauls.map Haul.back).reverse = place := by
  induction hauls generalizing place with
  | nil => exact ⟨trivial, rfl⟩
  | cons haul hauls inductionHypothesis =>
      obtain ⟨here, legal, rest⟩ := lawful
      obtain ⟨undone, returned⟩ := inductionHypothesis rest
      rw [List.map_cons, List.reverse_cons, lawful_append, after_append, after_cons, returned]
      refine ⟨⟨undone, move_self place haul.log haul.target, ?_, trivial⟩, ?_⟩
      · show Legal size _ haul.log haul.source
        rw [← here]
        exact legal.back
      · show (place.move haul.log haul.target).move haul.log haul.source = place
        rw [← here]
        exact move_back place haul.log haul.target

theorem larger (lawful : place.Lawful size hauls) : place.Lawful (size + 1) hauls := by
  induction hauls generalizing place with
  | nil => trivial
  | cons haul hauls inductionHypothesis =>
      obtain ⟨here, legal, rest⟩ := lawful
      exact ⟨here, legal.larger, inductionHypothesis rest⟩

/-- The largest log stays where it is while the others move. -/
theorem after_largest (lawful : place.Lawful size hauls) :
    place.after hauls (size + 1) = place (size + 1) := by
  induction hauls generalizing place with
  | nil => rfl
  | cons haul hauls inductionHypothesis =>
      obtain ⟨-, legal, rest⟩ := lawful
      have distinct : size + 1 ≠ haul.log := by
        have within := (mem_logsUpTo.1 legal.known).2
        omega
      rw [after_cons, inductionHypothesis rest, move_of_ne place haul.target distinct]

/-- The same hauls do not bring two placements together. -/
theorem eq_of_after_eq (lawful : place.Lawful size hauls) (lawful' : other.Lawful size hauls)
    (same : place.after hauls log = other.after hauls log) : place log = other log := by
  induction hauls generalizing place other with
  | nil => exact same
  | cons haul hauls inductionHypothesis =>
      obtain ⟨here, -, rest⟩ := lawful
      obtain ⟨here', -, rest'⟩ := lawful'
      have moved := inductionHypothesis rest rest' same
      by_cases named : log = haul.log
      · rw [named, here, here']
      · rwa [move_of_ne place haul.target named, move_of_ne other haul.target named] at moved

end Lawful

/-! ## Gathering -/

/-- No placement is farther from a goal than a whole stack on another site. -/
theorem distance_lt (size : Nat) (place : Placement) (goal : Site) :
    place.distance size goal < 2 ^ size := by
  induction size generalizing goal with
  | zero => exact Nat.one_pos
  | succ size inductionHypothesis =>
      by_cases here : place (size + 1) = goal
      · have rest := inductionHypothesis goal
        rw [distance_succ_of_eq here, Nat.pow_succ]
        omega
      · have rest := inductionHypothesis (Site.third (place (size + 1)) goal)
        rw [distance_succ_of_roles rfl (Site.roles_third here), Nat.pow_succ]
        omega

/-- With the smaller logs gathered on the third site the largest may go to its goal. -/
theorem Gathered.legal_largest {spare : Site} (gathered : place.Gathered size spare)
    (roles : Site.Roles (place (size + 1)) goal spare) :
    Legal (size + 1) place (size + 1) goal where
  known := mem_logsUpTo_succ.2 (.inr rfl)
  leaves := roles.source_ne_target
  clear := by
    intro smaller known below
    have inside := (mem_logsUpTo_succ.1 known).resolve_right (Nat.ne_of_lt below)
    rw [gathered smaller inside]
    exact ⟨roles.source_ne_spare.symm, roles.target_ne_spare.symm⟩

/-- Where the largest log has moved, the smaller ones are still gathered. -/
theorem Gathered.move_largest {spare : Site} (gathered : place.Gathered size spare)
    (target : Site) : (place.move (size + 1) target).Gathered size spare := by
  intro log inside
  have below := Nat.lt_succ_of_le (mem_logsUpTo.1 inside).2
  rw [move_of_ne place target (Nat.ne_of_lt below)]
  exact gathered log inside

theorem Gathered.of_largest (smaller : place.Gathered size goal)
    (largest : place (size + 1) = goal) : place.Gathered (size + 1) goal := by
  intro log inside
  rcases mem_logsUpTo_succ.1 inside with known | rfl
  · exact smaller log known
  · exact largest

/-- Every placement can be gathered on every site, in as many hauls as its distance says. -/
theorem exists_gathering (size : Nat) (place : Placement) (goal : Site) :
    ∃ hauls, place.Lawful size hauls ∧ (place.after hauls).Gathered size goal ∧
      hauls.length = place.distance size goal := by
  induction size generalizing place goal with
  | zero =>
      refine ⟨[], trivial, ?_, rfl⟩
      intro log inside
      cases inside
  | succ size inductionHypothesis =>
      by_cases here : place (size + 1) = goal
      · obtain ⟨hauls, lawful, gathered, length⟩ := inductionHypothesis place goal
        refine ⟨hauls, lawful.larger, gathered.of_largest ?_, ?_⟩
        · rw [lawful.after_largest, here]
        · rw [length, distance_succ_of_eq here]
      · -- the smaller logs make way for the largest, and then they follow it
        have roles := Site.roles_third here
        obtain ⟨aside, lawful, gathered, length⟩ :=
          inductionHypothesis place (Site.third (place (size + 1)) goal)
        have largest := lawful.after_largest
        have legal : Legal (size + 1) (place.after aside) (size + 1) goal :=
          gathered.legal_largest (by rwa [largest])
        have moved := gathered.move_largest goal
        obtain ⟨back, lawful', gathered', length'⟩ :=
          inductionHypothesis ((place.after aside).move (size + 1) goal) goal
        refine ⟨aside ++ ⟨size + 1, place (size + 1), goal⟩ :: back, ?_, ?_, ?_⟩
        · rw [lawful_append]
          exact ⟨lawful.larger, largest, legal, lawful'.larger⟩
        · rw [after_append, after_cons]
          refine gathered'.of_largest ?_
          rw [lawful'.after_largest, move_self]
        · rw [moved.distance_of_ne roles.target_ne_spare.symm] at length'
          have positive : 0 < 2 ^ size := Nat.two_pow_pos size
          rw [List.length_append, List.length_cons, length, length',
            distance_succ_of_roles rfl roles]
          omega

end Placement

end LogPiles
