import Mathlib.Data.List.Perm.Subperm
import Mathlib.Data.Sym.Sym2
import LogPiles.Chance.Meter
import LogPiles.Proofs.Faults

/-!
# Walks never get stuck

Faults disorder the piles, so that a walk can always go on does not follow from
their order.  It follows from the logs: none is lost and none lies twice, so of
two top logs one is the smaller.  Between two sites that are not both empty there
is therefore exactly one legal hop, and exactly one other hop where neither is
empty (`Walk.mem_ends_true`, `Walk.mem_ends_false`).  A lair with logs has two or
three legal hops in every position, and only the lair without logs comes to rest
(`Walk.Led.rests_iff`).

A stretch of a walk in a lair with logs is hence one step and the rest of the
stretch (`Walk.Led.advance_succ`), unless the source of the decisions refuses to
go on.  From this one equation follow the length of the stretch, its division
into two, and what it costs.
-/

namespace LogPiles

open Chance

/-- The two sites of a hop, in no order. -/
def Hop.ends (hop : Hop) : Sym2 Site := s(hop.source, hop.target)

/-- The pairs of different sites. -/
def Site.pairs : List (Sym2 Site) := [s(forest, base), s(forest, hideout), s(base, hideout)]

theorem Site.mem_pairs {left right : Site} (apart : left ≠ right) : s(left, right) ∈ pairs := by
  cases left <;> cases right <;> first | exact absurd rfl apart | simp [pairs]

namespace Walk

variable {walk next : Walk} {move? : Option Move} {hop other : Hop} {left right : Site}
  {legal : Bool}

/-! ## The hops between two sites -/

/-- Where no log lies twice there is one hop of a kind between two sites at most. -/
theorem ends_injective (once : walk.piles.logs.Nodup) (here : hop ∈ walk.candidates legal)
    (there : other ∈ walk.candidates legal) (same : hop.ends = other.ends) : hop = other := by
  obtain ⟨source, target⟩ := hop
  obtain ⟨source', target'⟩ := other
  obtain ⟨rfl, rfl⟩ | ⟨rfl, rfl⟩ := Sym2.eq_iff.1 same
  · rfl
  · obtain ⟨apart, log, top, fits⟩ := mem_candidates.1 here
    obtain ⟨-, below, under, fits'⟩ := mem_candidates.1 there
    dsimp only at apart top under fits fits'
    rw [Piles.fits_swap once apart top under, fits] at fits'
    exact absurd fits' (Bool.not_ne_self legal)

/-- Between two sites that both hold a log there is a hop of either kind. -/
theorem exists_candidate (once : walk.piles.logs.Nodup) (apart : left ≠ right)
    (held : walk.piles.get left ≠ []) (held' : walk.piles.get right ≠ []) (legal : Bool) :
    ∃ hop ∈ walk.candidates legal, hop.ends = s(left, right) := by
  obtain ⟨log, rest, here⟩ := List.exists_cons_of_ne_nil held
  obtain ⟨log', rest', there⟩ := List.exists_cons_of_ne_nil held'
  have top : walk.piles.top? left = some log := Piles.top?_eq_some_iff.2 ⟨rest, here⟩
  have top' : walk.piles.top? right = some log' := Piles.top?_eq_some_iff.2 ⟨rest', there⟩
  by_cases kind : walk.piles.fits log right = legal
  · exact ⟨⟨left, right⟩, mem_candidates.2 ⟨apart, log, top, kind⟩, rfl⟩
  · have kind' : walk.piles.fits log' left = legal := by
      rw [Piles.fits_swap once apart top top']
      exact (Bool.eq_not.2 (Ne.symm kind)).symm
    exact ⟨⟨right, left⟩, mem_candidates.2 ⟨apart.symm, log', top', kind'⟩, Sym2.eq_swap⟩

theorem ends_nodup (once : walk.piles.logs.Nodup) (legal : Bool) :
    ((walk.candidates legal).map Hop.ends).Nodup := by
  refine List.Nodup.map_on ?_ (walk.candidates_nodup legal)
  intro hop here other there same
  exact ends_injective once here there same

/-- The ends of a candidate are two sites, and one of them holds a log. -/
theorem held_of_mem_ends (between : s(left, right) ∈ (walk.candidates legal).map Hop.ends) :
    left ≠ right ∧ (walk.piles.get left ≠ [] ∨ walk.piles.get right ≠ []) := by
  obtain ⟨⟨source, target⟩, inside, same⟩ := List.mem_map.1 between
  obtain ⟨apart, log, top, -⟩ := mem_candidates.1 inside
  obtain ⟨rest, held⟩ := Piles.top?_eq_some_iff.1 top
  obtain ⟨rfl, rfl⟩ | ⟨rfl, rfl⟩ := Sym2.eq_iff.1 same
  · exact ⟨apart, .inl (by simp [held])⟩
  · exact ⟨apart.symm, .inr (by simp [held])⟩

/-- There is a legal hop between two sites unless both are empty. -/
theorem mem_ends_true (once : walk.piles.logs.Nodup) :
    s(left, right) ∈ (walk.candidates true).map Hop.ends ↔
      left ≠ right ∧ (walk.piles.get left ≠ [] ∨ walk.piles.get right ≠ []) := by
  refine ⟨held_of_mem_ends, ?_⟩
  rintro ⟨apart, some_held⟩
  have ground : ∀ {source target : Site}, source ≠ target → walk.piles.get source ≠ [] →
      walk.piles.get target = [] → ⟨source, target⟩ ∈ walk.candidates true := by
    intro source target apart held bare
    obtain ⟨log, rest, here⟩ := List.exists_cons_of_ne_nil held
    refine mem_candidates.2 ⟨apart, log, Piles.top?_eq_some_iff.2 ⟨rest, here⟩, ?_⟩
    simp [Piles.fits, Piles.top?_eq_none_iff.2 bare]
  rw [List.mem_map]
  by_cases held : walk.piles.get left = []
  · have held' : walk.piles.get right ≠ [] := some_held.resolve_left (fun some => some held)
    exact ⟨⟨right, left⟩, ground apart.symm held' held, Sym2.eq_swap⟩
  · by_cases held' : walk.piles.get right = []
    · exact ⟨⟨left, right⟩, ground apart held held', rfl⟩
    · exact exists_candidate once apart held held' true

/-- There is a hop against the rule between two sites where both hold a log. -/
theorem mem_ends_false (once : walk.piles.logs.Nodup) :
    s(left, right) ∈ (walk.candidates false).map Hop.ends ↔
      left ≠ right ∧ walk.piles.get left ≠ [] ∧ walk.piles.get right ≠ [] := by
  constructor
  · intro between
    refine ⟨(held_of_mem_ends between).1, ?_⟩
    obtain ⟨⟨source, target⟩, inside, same⟩ := List.mem_map.1 between
    obtain ⟨-, log, below, top, under, -⟩ := mem_candidates_false.1 inside
    obtain ⟨rest, held⟩ := Piles.top?_eq_some_iff.1 top
    obtain ⟨rest', held'⟩ := Piles.top?_eq_some_iff.1 under
    obtain ⟨rfl, rfl⟩ | ⟨rfl, rfl⟩ := Sym2.eq_iff.1 same <;> simp [held, held']
  · rintro ⟨apart, held, held'⟩
    exact List.mem_map.2 (exists_candidate once apart held held' false)

/-- A site that holds a log has a legal hop to or from each of the two others, and there are three
pairs of sites. -/
theorem length_candidates_true (once : walk.piles.logs.Nodup) {site : Site}
    (held : walk.piles.get site ≠ []) :
    (walk.candidates true).length = 2 ∨ (walk.candidates true).length = 3 := by
  obtain ⟨other, spare, roles⟩ : ∃ other spare, Site.Roles site other spare := by
    cases site
    · exact ⟨_, _, Site.roles_solve⟩
    · exact ⟨_, _, Site.roles_solve.back⟩
    · exact ⟨_, _, Site.roles_solve.swap⟩
  have atLeast :
      [s(site, other), s(site, spare)].Subperm ((walk.candidates true).map Hop.ends) := by
    refine List.subperm_of_subset ?_ ?_
    · simp [roles.target_ne_spare, roles.source_ne_spare]
    · simp only [List.cons_subset, List.nil_subset, and_true, mem_ends_true once]
      exact ⟨⟨roles.source_ne_target, .inl held⟩, roles.source_ne_spare, .inl held⟩
  have atMost : ((walk.candidates true).map Hop.ends).Subperm Site.pairs := by
    refine List.subperm_of_subset (ends_nodup once true) ?_
    intro pair between
    induction pair with
    | h left right => exact Site.mem_pairs (held_of_mem_ends between).1
  have two := atLeast.length_le
  have three := atMost.length_le
  simp only [List.length_map, List.length_cons, List.length_nil, Site.pairs] at two three
  omega

/-! ## Steps and stretches -/

/-- A step leaves the probability of a fault as it is. -/
theorem Step.faultProbability_eq (stepped : walk.Step move? next) :
    next.faultProbability = walk.faultProbability := by
  cases stepped <;> rfl

namespace Led

variable {size : Nat}

/-- In a lair with logs some site holds one. -/
theorem exists_held (led : walk.Led size) (positive : 0 < size) :
    ∃ site, walk.piles.get site ≠ [] := by
  have smallest : 1 ∈ walk.piles.logs := by
    rw [led.accounted.logs_perm.mem_iff, mem_logsUpTo]
    omega
  obtain ⟨site, inside⟩ := Piles.mem_logs.1 smallest
  exact ⟨site, List.ne_nil_of_mem inside⟩

/-- A walk comes to rest in the lair without logs only, and there at once. -/
theorem rests_iff (led : walk.Led size) (stepped : walk.Step move? next) :
    move? = none ↔ size = 0 := by
  have moving : ∀ {site : Site} {log : Log}, walk.piles.top? site = some log → size ≠ 0 := by
    rintro site log top rfl
    obtain ⟨rest, held⟩ := Piles.top?_eq_some_iff.1 top
    have bare : walk.piles.logs = [] := led.accounted.logs_perm.eq_nil
    have inside : log ∈ walk.piles.logs := Piles.mem_logs.2 ⟨site, by simp [held]⟩
    simp [bare] at inside
  cases stepped with
  | rest stuck =>
      refine iff_of_true rfl ?_
      by_contra positive
      obtain ⟨site, held⟩ := led.exists_held (Nat.pos_of_ne_zero positive)
      have some_hop := length_candidates_true led.accounted.nodup held
      simp [candidates_true, stuck] at some_hop
  | legal allowed top => exact iff_of_false (by simp) (moving top)
  | fault possible apart top => exact iff_of_false (by simp) (moving top)

end Led

section Sources

variable {σ : Type} [Decisions σ] {source left : σ} {size count steps : Nat}

/-- The moves already taken are only added to those that are made. -/
theorem advanceFrom_eq (walk : Walk) (taken steps : Nat) (source : σ) :
    walk.advanceFrom taken steps source = do
      let (count, walk, source) ← walk.advance steps source
      return (taken + count, walk, source) := by
  rw [advance]
  induction steps generalizing walk taken source with
  | zero => rfl
  | succ steps inductionHypothesis =>
      rw [advanceFrom, advanceFrom]
      cases walk.step source with
      | error breach => rfl
      | ok outcome =>
          obtain ⟨move?, next, after⟩ := outcome
          cases move? with
          | none => rfl
          | some move =>
              dsimp only
              rw [inductionHypothesis next (taken + 1) after,
                inductionHypothesis next (0 + 1) after, bind_assoc]
              simp only [pure_bind, Nat.add_assoc, Nat.zero_add]

section Led

variable [FairDecisions σ]

/-- In a lair with logs a stretch is one step and the rest of the stretch. -/
theorem Led.advance_succ (led : walk.Led size) (positive : 0 < size) (steps : Nat) (source : σ) :
    walk.advance (steps + 1) source = do
      let (_, walk, source) ← walk.step source
      let (count, walk, source) ← walk.advance steps source
      return (1 + count, walk, source) := by
  rw [Walk.advance, advanceFrom]
  cases stepped : walk.step source with
  | error breach => rfl
  | ok outcome =>
      obtain ⟨move?, next, after⟩ := outcome
      cases move? with
      | none => exact absurd ((led.rests_iff (step_sound stepped)).1 rfl) (Nat.ne_of_gt positive)
      | some move => exact advanceFrom_eq next (0 + 1) steps after

/-- In a lair with logs two stretches in a row are one. -/
theorem Led.advance_add (led : walk.Led size) (positive : 0 < size) (steps more : Nat)
    (source : σ) :
    walk.advance (steps + more) source = do
      let (count, walk, source) ← walk.advance steps source
      let (others, walk, source) ← walk.advance more source
      return (count + others, walk, source) := by
  induction steps generalizing walk source with
  | zero =>
      rw [Nat.zero_add]
      exact advanceFrom_eq walk 0 more source
  | succ steps inductionHypothesis =>
      rw [Nat.add_right_comm, led.advance_succ positive, led.advance_succ positive, bind_assoc]
      refine bind_congr_ok ?_
      rintro ⟨move?, next, after⟩ stepped
      dsimp only
      rw [inductionHypothesis (led.step stepped) after]
      simp only [bind_assoc, pure_bind, Nat.add_assoc]

/-- Without logs a stretch is one step at most, and that makes no move. -/
theorem Led.advance_succ_bare (led : walk.Led 0) (steps : Nat) (source : σ) :
    walk.advance (steps + 1) source = do
      let (_, walk, source) ← walk.step source
      return (0, walk, source) := by
  rw [Walk.advance, advanceFrom]
  cases stepped : walk.step source with
  | error breach => rfl
  | ok outcome =>
      obtain ⟨move?, next, after⟩ := outcome
      obtain rfl := (led.rests_iff (step_sound stepped)).2 rfl
      rfl

/-- A stretch is made to its end, unless there is no log to be moved. -/
theorem Led.count_eq (led : walk.Led size)
    (advanced : walk.advance steps source = .ok (count, next, left)) :
    count = if size = 0 then 0 else steps := by
  induction steps generalizing walk source count with
  | zero =>
      cases advanced
      exact (ite_self 0).symm
  | succ steps inductionHypothesis =>
      obtain rfl | positive := Nat.eq_zero_or_pos size
      · rw [led.advance_succ_bare] at advanced
        obtain ⟨⟨move?, middle, after⟩, stepped, ended⟩ := bind_eq_ok_iff.1 advanced
        cases ended
        rfl
      · rw [led.advance_succ positive] at advanced
        obtain ⟨⟨move?, middle, after⟩, stepped, rest⟩ := bind_eq_ok_iff.1 advanced
        obtain ⟨⟨others, last, later⟩, advanced', ended⟩ := bind_eq_ok_iff.1 rest
        cases ended
        have made := inductionHypothesis (led.step stepped) advanced'
        rw [if_neg (Nat.ne_of_gt positive)] at made ⊢
        rw [made, Nat.add_comm]

end Led

/-! ## Calls -/

/-- The fewest calls that a step may take. -/
def leastCalls (walk : Walk) : Nat := if walk.faultProbability.isPositive then 2 else 1

/-- The most calls that a step may take: whether it shall be a fault, which, and which legal hop
if there is none. -/
def mostCalls (walk : Walk) : Nat := if walk.faultProbability.isPositive then 3 else 1

section Metered

variable [Metered σ] [MeteredDecisions σ]

theorem Step.leastCalls_eq (stepped : walk.Step move? next) :
    next.leastCalls = walk.leastCalls := by
  rw [leastCalls, stepped.faultProbability_eq, leastCalls]

theorem Step.mostCalls_eq (stepped : walk.Step move? next) :
    next.mostCalls = walk.mostCalls := by
  rw [mostCalls, stepped.faultProbability_eq, mostCalls]

theorem legalStep_costs (walk : Walk) (source : σ) :
    Costs source (·.2.2) 1 1 (walk.legalStep source) := by
  refine (MeteredDecisions.pick_costs (walk.candidates true) source).returns ?_
  rintro ⟨hop?, after⟩
  exact ⟨_, rfl, rfl⟩

/-- A fault takes a second call only where it gives way to a legal hop. -/
theorem faultStep_costs (walk : Walk) (source : σ) :
    Costs source (·.2.2) 1 2 (walk.faultStep source) := by
  show Costs source _ (1 + 0) (1 + 1) (Decisions.pick (walk.candidates false) source >>= _)
  refine (MeteredDecisions.pick_costs (walk.candidates false) source).bind ?_
  rintro ⟨hop?, after⟩ -
  cases hop? with
  | none => exact (walk.legalStep_costs after).mono (by decide) (by decide)
  | some hop => exact (Costs.free (Eq.refl after)).mono (Nat.le_refl 0) (Nat.zero_le 1)

theorem step_costs (walk : Walk) (source : σ) :
    Costs source (·.2.2) walk.leastCalls walk.mostCalls (walk.step source) := by
  cases possible : walk.faultProbability.isPositive with
  | false =>
      rw [step_of_calm possible]
      simpa [leastCalls, mostCalls, possible] using walk.legalStep_costs source
  | true =>
      simp only [step, leastCalls, mostCalls, possible, if_true]
      show Costs source _ (1 + 1) (1 + 2) (Decisions.flip walk.faultProbability source >>= _)
      refine (MeteredDecisions.flip_costs walk.faultProbability source).bind ?_
      rintro ⟨fault, after⟩ -
      cases fault with
      | true => exact walk.faultStep_costs after
      | false => exact (walk.legalStep_costs after).mono (by decide) (by decide)

variable [FairDecisions σ]

/-- A stretch costs what its steps cost. -/
theorem Led.advance_costs (led : walk.Led size) (steps : Nat) (source : σ) :
    Costs source (·.2.2) ((if size = 0 then 0 else steps) * walk.leastCalls)
      (steps * walk.mostCalls) (walk.advance steps source) := by
  induction steps generalizing walk source with
  | zero =>
      rw [ite_self, Nat.zero_mul, Nat.zero_mul]
      exact .free rfl
  | succ steps inductionHypothesis =>
      obtain rfl | positive := Nat.eq_zero_or_pos size
      · rw [led.advance_succ_bare]
        refine ((walk.step_costs source).mono ?_ ?_).returns ?_
        · simp
        · rw [Nat.succ_mul]
          exact Nat.le_add_left _ _
        · rintro ⟨move?, next, after⟩
          exact ⟨_, rfl, rfl⟩
      · have rest : ∀ answer, walk.step source = .ok answer →
            Costs answer.2.2 (·.2.2) (steps * walk.leastCalls) (steps * walk.mostCalls) (do
              let (count, walk, source) ← answer.2.1.advance steps answer.2.2
              return (1 + count, walk, source)) := by
          rintro ⟨move?, next, after⟩ stepped
          have costs := inductionHypothesis (led.step stepped) after
          rw [if_neg (Nat.ne_of_gt positive), (step_sound stepped).leastCalls_eq,
            (step_sound stepped).mostCalls_eq] at costs
          refine costs.returns ?_
          rintro ⟨count, last, later⟩
          exact ⟨_, rfl, rfl⟩
        rw [led.advance_succ positive, if_neg (Nat.ne_of_gt positive), Nat.succ_mul, Nat.succ_mul,
          Nat.add_comm _ walk.leastCalls, Nat.add_comm _ walk.mostCalls]
        exact (walk.step_costs source).bind rest

end Metered

end Sources

end Walk

/-- A walk never gets stuck, whatever it has been through and whatever its decisions are.  Between
two sites it has one legal hop unless both are empty, and one other hop if neither is; so there are
two or three legal hops as soon as there is a log.  A step makes no move exactly in the lair without
logs.  It takes one call where faults do not happen and two or three where they may, and nothing
but the limit of calls can end it.  Many steps are all made if there is a log, and then it makes no
difference, to the walk or to the source, whether they are made at once or in two parts. -/
theorem walk_never_stuck {size : Nat} {walk : Walk} (led : walk.Led size) :
    ((∀ legal, ((walk.candidates legal).map Hop.ends).Nodup) ∧
      (∀ left right, s(left, right) ∈ (walk.candidates true).map Hop.ends ↔
        left ≠ right ∧ (walk.piles.get left ≠ [] ∨ walk.piles.get right ≠ [])) ∧
      (∀ left right, s(left, right) ∈ (walk.candidates false).map Hop.ends ↔
        left ≠ right ∧ walk.piles.get left ≠ [] ∧ walk.piles.get right ≠ []) ∧
      (0 < size → (walk.candidates true).length = 2 ∨ (walk.candidates true).length = 3)) ∧
    ∀ {σ : Type} [Decisions σ] [FairDecisions σ] [Metered σ] [MeteredDecisions σ] (source : σ),
      ((walk.faultProbability.isPositive = false →
          Costs source (·.2.2) 1 1 (walk.step source)) ∧
        (walk.faultProbability.isPositive = true →
          Costs source (·.2.2) 2 3 (walk.step source)) ∧
        ∀ move? next left, walk.step source = .ok (move?, next, left) →
          (move? = none ↔ size = 0)) ∧
      ∀ steps,
        Costs source (·.2.2) ((if size = 0 then 0 else steps) * walk.leastCalls)
          (steps * walk.mostCalls) (walk.advance steps source) ∧
        (∀ count next left, walk.advance steps source = .ok (count, next, left) →
          count = if size = 0 then 0 else steps) ∧
        (0 < size → ∀ more, walk.advance (steps + more) source = do
          let (count, walk, source) ← walk.advance steps source
          let (others, walk, source) ← walk.advance more source
          return (count + others, walk, source)) := by
  have once := led.accounted.nodup
  refine ⟨⟨Walk.ends_nodup once, fun left right => Walk.mem_ends_true once,
    fun left right => Walk.mem_ends_false once, ?_⟩, ?_⟩
  · intro positive
    obtain ⟨site, held⟩ := led.exists_held positive
    exact Walk.length_candidates_true once held
  · intro σ _ _ _ _ source
    have costs := walk.step_costs source
    refine ⟨⟨?_, ?_, ?_⟩, ?_⟩
    · intro calm
      simpa [Walk.leastCalls, Walk.mostCalls, calm] using costs
    · intro possible
      simpa [Walk.leastCalls, Walk.mostCalls, possible] using costs
    · intro move? next left stepped
      exact led.rests_iff (Walk.step_sound stepped)
    · intro steps
      exact ⟨led.advance_costs steps source, fun count next left => led.count_eq,
        fun positive more => led.advance_add positive steps more source⟩

/-- Two logs and the generator of the seed `1`: three steps are three moves and three calls. -/
theorem walk_never_stuck_three :
    (Walk.start 2).Led 2 ∧ ∃ walk left,
      (Walk.start 2).advance 3 (Generator.restart 1) = .ok (3, walk, left) ∧ left.calls = 3 := by
  have led : (Walk.start 2).Led 2 := .start
  obtain ⟨-, atSource⟩ := walk_never_stuck led
  obtain ⟨-, stretch⟩ := atSource (Generator.restart 1)
  obtain ⟨costs, counted, -⟩ := stretch 3
  obtain ⟨⟨count, walk, left⟩, advanced⟩ := costs.exists_ok (by decide)
  obtain rfl : count = 3 := counted count walk left advanced
  rw [advanced] at costs
  obtain ⟨paid, afforded⟩ := costs
  exact ⟨led, walk, left, advanced, Nat.le_antisymm afforded paid⟩

end LogPiles
