import LogPiles.Proofs.Verdict

/-!
# Edited histories

A history that leads to the piles of its account does so no longer after a single
edit.  Where two histories part, some log lies on different sites after the one
and after the other, and what they have in common from there on cannot make up
for it (`Placement.Lawful.piles_injective`).  Only two neighbours that change
places would bring every log to the same site.  But of two different moves that
could be made in either order the larger log would need two sites that are free
of the smaller one before and after its move, which makes four sites in all
(`Placement.not_lawful_both_ways`).
-/

namespace LogPiles

/-- What one edit makes of a list. -/
inductive Edited {α : Type} : List α → List α → Prop where
  | replace (before : List α) {old new : α} (after : List α) (differs : old ≠ new) :
      Edited (before ++ old :: after) (before ++ new :: after)
  | delete (before : List α) (gone : α) (after : List α) :
      Edited (before ++ gone :: after) (before ++ after)
  | insert (before : List α) (added : α) (after : List α) :
      Edited (before ++ after) (before ++ added :: after)
  | swap (before : List α) (first second : α) (after : List α) :
      Edited (before ++ first :: second :: after) (before ++ second :: first :: after)

namespace Placement

variable {size : Nat} {place other : Placement} {haul added : Haul}
  {hauls more rest rest' : List Haul}

/-- Placements from which the same hauls lead to the same position have the same position. -/
theorem Lawful.piles_injective (lawful : place.Lawful size hauls)
    (lawful' : other.Lawful size hauls)
    (same : (place.after hauls).piles size = (other.after hauls).piles size) :
    place.piles size = other.piles size := by
  rw [piles_eq_iff] at same ⊢
  intro log known
  exact lawful.eq_of_after_eq lawful' (same log known)

/-- A haul changes the position. -/
theorem piles_move_ne (legal : Legal size place haul.log haul.target) :
    (place.move haul.log haul.target).piles size ≠ place.piles size := by
  intro same
  exact move_ne legal (piles_eq_iff.1 same _ legal.known)

/-- Different hauls change the position differently. -/
theorem haul_eq_of_move_eq (lawful : place.Lawful size (haul :: rest))
    (lawful' : place.Lawful size (added :: rest'))
    (same : (place.move haul.log haul.target).piles size =
      (place.move added.log added.target).piles size) : haul = added := by
  obtain ⟨here, legal, -⟩ := lawful
  obtain ⟨here', -, -⟩ := lawful'
  have agree := piles_eq_iff.1 same _ legal.known
  rw [move_self] at agree
  by_cases named : haul.log = added.log
  · rw [named, move_self] at agree
    exact Haul.ext named (by rw [← here, ← here', named]) agree
  · rw [move_of_ne place added.target named] at agree
    exact absurd agree.symm legal.leaves

/-- A larger log that can be moved before a smaller one cannot be moved after it. -/
theorem not_lawful_after_smaller {small large : Haul} (below : small.log < large.log)
    (together : place.Lawful size (small :: large :: rest))
    (alone : place.Lawful size (large :: rest')) : False := by
  obtain ⟨-, legal, -, later, -⟩ := together
  obtain ⟨-, earlier, -⟩ := alone
  have known := legal.known
  obtain ⟨apart, apart'⟩ := earlier.clear small.log known below
  obtain ⟨clear, clear'⟩ := later.clear small.log known below
  rw [move_self] at clear clear'
  rw [move_of_ne place small.target (Nat.ne_of_gt below)] at clear
  -- the larger log goes between two sites, and the smaller one between two others
  have roles : Site.Roles (place small.log) small.target (place large.log) :=
    ⟨legal.leaves, apart, clear⟩
  rcases roles.exhaust large.target with same | same | same
  · exact apart' same.symm
  · exact clear' same.symm
  · exact earlier.leaves same.symm

/-- No two hauls can be made in either order. -/
theorem not_lawful_both_ways (lawful : place.Lawful size (haul :: added :: rest))
    (lawful' : place.Lawful size (added :: haul :: rest')) : False := by
  rcases Nat.lt_trichotomy haul.log added.log with below | same | below
  · exact not_lawful_after_smaller below lawful lawful'
  · -- after the first haul the log does not lie where the second one wants it
    obtain ⟨-, legal, here, -⟩ := lawful
    obtain ⟨here', -⟩ := lawful'
    rw [← same, move_self, ← here', ← same] at here
    exact legal.leaves here.symm
  · exact not_lawful_after_smaller below lawful' lawful

/-- A list of hauls and an edited one do not lead from one position to the same. -/
theorem retrace?_edited {final : Piles} (edit : Edited hauls more)
    (made : (place.piles size).retrace? hauls = some final) :
    (place.piles size).retrace? more ≠ some final := by
  intro made'
  obtain ⟨lawful, rfl⟩ := retrace?_piles.1 made
  obtain ⟨lawful', same⟩ := retrace?_piles.1 made'
  cases edit with
  | replace before after differs =>
      rw [lawful_append] at lawful lawful'
      rw [after_append, after_append, after_cons, after_cons] at same
      have met := lawful.2.2.2.piles_injective lawful'.2.2.2 same
      exact differs (haul_eq_of_move_eq lawful.2 lawful'.2 met)
  | delete before gone after =>
      rw [lawful_append] at lawful lawful'
      rw [after_append, after_append, after_cons] at same
      have met := lawful.2.2.2.piles_injective lawful'.2 same
      exact piles_move_ne lawful.2.2.1 met
  | insert before added after =>
      rw [lawful_append] at lawful lawful'
      rw [after_append, after_append, after_cons] at same
      have met := lawful'.2.2.2.piles_injective lawful.2 same.symm
      exact piles_move_ne lawful'.2.2.1 met
  | swap before first second after =>
      rw [lawful_append] at lawful lawful'
      exact not_lawful_both_ways lawful.2 lawful'.2

end Placement

/-- A history that was found legal is no longer found so after one edit: a move that is replaced by
another one, left out, or added, or two neighbours that change places, however the moves are
numbered then. -/
theorem edited_history_refused {account : Account} {options : CheckOptions} {edited : History}
    (legal : Upheld (account.legality options))
    (edit : Edited account.history.hauls edited.hauls)
    (positive : ∀ move ∈ edited.toList, 0 < move.step) :
    ∃ finding, { account with history := edited }.legality options = .ok finding ∧
      finding.holds = false := by
  obtain ⟨finding, found⟩ :=
    Account.exists_legality options { account with history := edited } positive
  refine ⟨finding, found, ?_⟩
  by_contra holds
  have legal' : Upheld ({ account with history := edited }.legality options) :=
    ⟨finding, found, by simpa using holds⟩
  rw [Account.legality_upheld_iff, ← Placement.piles_forest] at legal legal'
  exact Placement.retrace?_edited edit legal legal'

/-- Two logs and their solution, with the last two moves in the other order. -/
theorem edited_history_refused_swapped :
    Upheld (Account.legality {} ⟨2, ⟨[], [], [1, 2]⟩,
        .ofList [⟨1, 1, .forest, .base⟩, ⟨2, 2, .forest, .hideout⟩, ⟨3, 1, .base, .hideout⟩]⟩) ∧
      ∃ finding, Account.legality {} ⟨2, ⟨[], [], [1, 2]⟩,
          .ofList [⟨1, 1, .forest, .base⟩, ⟨2, 1, .base, .hideout⟩, ⟨3, 2, .forest, .hideout⟩]⟩ =
        .ok finding ∧ finding.holds = false := by
  have legal : Upheld (Account.legality {} ⟨2, ⟨[], [], [1, 2]⟩,
      .ofList [⟨1, 1, .forest, .base⟩, ⟨2, 2, .forest, .hideout⟩, ⟨3, 1, .base, .hideout⟩]⟩) :=
    Account.legality_upheld_iff.2 rfl
  have edit := Edited.swap [(⟨1, .forest, .base⟩ : Haul)] ⟨2, .forest, .hideout⟩
    ⟨1, .base, .hideout⟩ []
  exact ⟨legal, edited_history_refused legal edit (by decide)⟩

end LogPiles
