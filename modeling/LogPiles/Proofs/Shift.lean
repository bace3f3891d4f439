import LogPiles.Lair

/-!
# What a shift changes

A shift between two sites changes nothing of a lair but the logs on its piles,
and it changes those as a hop of the game does.  `Lair.arrange` is the lair with
other logs on its piles; `Lair.shift_eq` then says all that a shift can do, in
terms of the position alone: it moves the top log where the rule of the game
allows it, it answers with an error where there is no log, and it is a breach
otherwise.

A hop whose source is its target is in no itinerary, and every statement below
excludes it.
-/

namespace LogPiles

namespace Lair

/-- The same lair with these logs on its piles. -/
def arrange (lair : Lair) (position : Piles) : Lair :=
  { lair with
    piles :=
      ⟨{ lair.piles.forest with logs := position.forest },
        { lair.piles.base with logs := position.base },
        { lair.piles.hideout with logs := position.hideout }⟩ }

@[simp]
theorem size_arrange (lair : Lair) (position : Piles) :
    (lair.arrange position).size = lair.size := rfl

@[simp]
theorem solved_arrange (lair : Lair) (position : Piles) :
    (lair.arrange position).solved = lair.solved := rfl

@[simp]
theorem position_arrange (lair : Lair) (position : Piles) :
    (lair.arrange position).position = position := rfl

@[simp]
theorem pile_arrange (lair : Lair) (position : Piles) (site : Site) :
    (lair.arrange position).pile site =
      { lair.pile site with logs := position.get site } := by
  cases site <;> rfl

@[simp]
theorem arrange_arrange (lair : Lair) (first second : Piles) :
    (lair.arrange first).arrange second = lair.arrange second := rfl

/-- A lair is known from its arrangement when the piles agree site by site. -/
theorem eq_arrange {lair next : Lair} {position : Piles} (size : next.size = lair.size)
    (moves : next.moves = lair.moves) (solved : next.solved = lair.solved)
    (piles : ∀ site, next.pile site = { lair.pile site with logs := position.get site }) :
    next = lair.arrange position := by
  have same : next.piles = (lair.arrange position).piles := by
    refine PerSite.ext_get fun site => ?_
    rw [← pile, piles site, ← pile_arrange]
    rfl
  cases next
  simp_all [arrange]

/-- All that a shift between two sites can do. -/
theorem shift_eq (lair : Lair) {hop : Hop} (apart : hop.source ≠ hop.target) :
    lair.shift hop =
      match lair.position.top? hop.source with
      | none => .error (.error (.emptyPile (lair.pile hop.source).site))
      | some log =>
        if lair.position.canHop hop then .ok (log, lair.arrange (lair.position.carry hop))
        else .error (.breach (.smallerBelow log)) := by
  cases top : lair.position.top? hop.source with
  | none =>
      have bare : (lair.pile hop.source).logs = [] := by
        rw [← get_position, ← Piles.top?_eq_none_iff, top]
      have popped := Pile.pop_eq_error_iff.2 ⟨bare, rfl⟩
      simp only [shift, popped]
  | some log =>
      obtain ⟨rest, held⟩ := Piles.top?_eq_some_iff.1 top
      have popped : (lair.pile hop.source).pop =
          .ok (log, { lair.pile hop.source with logs := rest }) := by
        rw [Pile.pop, ← get_position, held]
      -- taking the log off its source does not touch the target, since the hop leads elsewhere
      have target : (lair.piles.set hop.source { lair.pile hop.source with logs := rest }).get
          hop.target = lair.pile hop.target := PerSite.get_set_ne _ _ apart.symm
      have fits : (lair.pile hop.target).accepts log = lair.position.canHop hop := by
        rw [Piles.canHop_iff_fits apart top, Pile.accepts, Pile.peek?, Piles.fits, Piles.top?,
          get_position]
      simp only [shift, popped, target, fits]
      split
      · congr 2
        -- site by site: the target has gained the log, the source lost it, the third is the same
        refine eq_arrange rfl rfl rfl fun site => ?_
        rw [pile, PerSite.get_set, PerSite.get_set, Piles.get_carry apart held]
        by_cases atTarget : site = hop.target
        · subst atTarget
          simp [Pile.push]
        · by_cases atSource : site = hop.source
          · subst atSource
            simp [atTarget]
          · simp [atTarget, atSource, pile]
      · rfl

/-- A shift succeeds where the rule allows the hop, and then it is that hop. -/
theorem shift_eq_ok_iff {lair next : Lair} {hop : Hop} {log : Log}
    (apart : hop.source ≠ hop.target) :
    lair.shift hop = .ok (log, next) ↔
      lair.position.canHop hop = true ∧ lair.position.top? hop.source = some log ∧
        next = lair.arrange (lair.position.carry hop) := by
  rw [shift_eq lair apart]
  cases top : lair.position.top? hop.source with
  | none => simp
  | some top =>
      by_cases legal : lair.position.canHop hop = true
      · simp [legal, eq_comm]
      · simp [legal]

/-- Without a breach a shift fails only where there is no log. -/
theorem shift_eq_error {lair : Lair} {hop : Hop} {cause : Halt}
    (apart : hop.source ≠ hop.target) (failed : lair.shift hop = .error cause) :
    cause = .error (.emptyPile (lair.pile hop.source).site) ∨
      ∃ log, cause = .breach (.smallerBelow log) := by
  rw [shift_eq lair apart] at failed
  cases top : lair.position.top? hop.source with
  | none =>
      simp only [top, Except.error.injEq] at failed
      exact .inl failed.symm
  | some log =>
      simp only [top] at failed
      split at failed
      · cases failed
      · exact .inr ⟨log, by simpa using failed.symm⟩

end Lair

end LogPiles
