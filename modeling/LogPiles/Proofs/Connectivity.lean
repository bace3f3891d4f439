import Mathlib.Data.Fintype.BigOperators
import Mathlib.Data.Set.Card
import LogPiles.Proofs.Invariants
import LogPiles.Proofs.Route

/-!
# How far the game reaches

The positions that can be reached from the start are those that meet the two
invariants, and those are the positions of placements.  One direction is that
legal hops keep placements; for the other a placement is gathered in the forest
and the way is gone back.  Since every log lies on one of three sites there are
`3 ^ size` such positions, and the largest distance bounds every way from the
start and every way to a full hideout.
-/

namespace LogPiles

instance : Fintype Site := Fintype.ofList Site.all Site.mem_all

theorem Site.card : Fintype.card Site = 3 := rfl

namespace Placement

variable {size : Nat}

/-- The placement of the logs of a lair by their number, from `0` on. -/
def ofFin (size : Nat) (sites : Fin size → Site) : Placement :=
  fun log => if within : log - 1 < size then sites ⟨log - 1, within⟩ else .forest

theorem ofFin_succ (sites : Fin size → Site) (index : Fin size) :
    ofFin size sites (index + 1) = sites index := by
  simp [ofFin]

/-- Different choices of sites give different positions. -/
theorem piles_ofFin_injective (size : Nat) :
    Function.Injective fun sites : Fin size → Site => (ofFin size sites).piles size := by
  intro sites others same
  funext index
  have known : (index : Nat) + 1 ∈ logsUpTo size := mem_logsUpTo.2 ⟨by omega, index.isLt⟩
  have agree := piles_eq_iff.1 same _ known
  rwa [ofFin_succ, ofFin_succ] at agree

/-- Every placement is such a choice, as far as the logs of the lair are concerned. -/
theorem exists_piles_ofFin (place : Placement) :
    ∃ sites, (ofFin size sites).piles size = place.piles size := by
  refine ⟨fun index => place (index + 1), piles_eq_iff.2 ?_⟩
  intro log known
  obtain ⟨positive, within⟩ := mem_logsUpTo.1 known
  have back : log - 1 + 1 = log := Nat.sub_add_cancel positive
  have below : log - 1 < size := by rwa [← back, Nat.add_one_le_iff] at within
  simp [ofFin, below, back]

/-- From the start every placement can be reached in fewer than `2 ^ size` hops. -/
theorem exists_path_from_start (size : Nat) (place : Placement) :
    ∃ hops, (Piles.start size).follow? hops = some (place.piles size) ∧
      hops.length ≤ 2 ^ size - 1 := by
  obtain ⟨hauls, lawful, gathered, length⟩ := exists_gathering size place .forest
  obtain ⟨undone, returned⟩ := lawful.back
  have start : (place.after hauls).piles size = Piles.start size := by
    rw [gathered.piles_eq, piles_forest]
  have made : (Piles.start size).retrace? (hauls.map Haul.back).reverse =
      some (place.piles size) := by
    rw [← start, retrace?_piles, returned]
    exact ⟨undone, rfl⟩
  refine ⟨_, Piles.follow?_of_retrace? made, ?_⟩
  have near := distance_lt size place .forest
  rw [List.length_map, List.length_reverse, List.length_map, length]
  omega

/-- From every placement the hideout can be filled in fewer than `2 ^ size` hops. -/
theorem exists_path_to_hideout (size : Nat) (place : Placement) :
    ∃ hops final, (place.piles size).follow? hops = some final ∧ final.solved size = true ∧
      hops.length ≤ 2 ^ size - 1 := by
  obtain ⟨hauls, lawful, gathered, length⟩ := exists_gathering size place .hideout
  have made := retrace?_piles.2 ⟨lawful, rfl⟩
  refine ⟨_, _, Piles.follow?_of_retrace? made, ?_, ?_⟩
  · rw [gathered.piles_eq, piles_gathered]
    simp [Piles.solved, PerSite.set]
  · have near := distance_lt size place .hideout
    rw [List.length_map, length]
    omega

/-- What can be reached are the positions of placements. -/
theorem reachable_iff_exists {position : Piles} :
    Piles.Reachable size position ↔ ∃ place : Placement, position = place.piles size := by
  rw [Piles.reachable_iff_follow?]
  constructor
  · rintro ⟨hops, path⟩
    rw [← piles_forest] at path
    obtain ⟨last, same, -⟩ := exists_of_path path .hideout
    exact ⟨last, same⟩
  · rintro ⟨place, rfl⟩
    obtain ⟨hops, path, -⟩ := exists_path_from_start size place
    exact ⟨hops, path⟩

/-- There are three sites for every log. -/
theorem ncard_reachable (size : Nat) :
    {position | Piles.Reachable size position}.ncard = 3 ^ size := by
  have all : {position | Piles.Reachable size position} =
      Set.range fun sites : Fin size → Site => (ofFin size sites).piles size := by
    ext position
    rw [Set.mem_ofPred_eq, reachable_iff_exists, Set.mem_range]
    constructor
    · rintro ⟨place, rfl⟩
      exact exists_piles_ofFin place
    · rintro ⟨sites, rfl⟩
      exact ⟨_, rfl⟩
  rw [all, Set.ncard_range_of_injective (piles_ofFin_injective size), Nat.card_eq_fintype_card,
    Fintype.card_fun, Fintype.card_fin, Site.card]

end Placement

/-- A position can be reached exactly when it meets both invariants of the game.  There are
`3 ^ size` such positions.  None of them is more than `2 ^ size - 1` hops from the start, and from
none of them does it take more to fill the hideout. -/
theorem reachable_iff_invariants (size : Nat) :
    (∀ piles, Piles.Reachable size piles ↔ piles.conserved size = true ∧ piles.ordered = true) ∧
    {piles | Piles.Reachable size piles}.ncard = 3 ^ size ∧
    ∀ piles, Piles.Reachable size piles →
      (∃ hops, (Piles.start size).follow? hops = some piles ∧ hops.length ≤ 2 ^ size - 1) ∧
      ∃ hops final, piles.follow? hops = some final ∧ final.solved size = true ∧
        hops.length ≤ 2 ^ size - 1 := by
  refine ⟨?_, Placement.ncard_reachable size, ?_⟩
  · intro piles
    rw [Placement.reachable_iff_exists, Placement.exists_eq_piles_iff]
  · intro piles reachable
    obtain ⟨place, rfl⟩ := Placement.reachable_iff_exists.1 reachable
    exact ⟨Placement.exists_path_from_start size place, Placement.exists_path_to_hideout size place⟩

/-- Three logs, the largest in the base and the others in the forest: no more than seven hops
lead there from the start, and no more than seven from there to a full hideout. -/
theorem reachable_iff_invariants_base :
    Piles.Reachable 3 ⟨[1, 2], [3], []⟩ ∧
      (∃ hops, (Piles.start 3).follow? hops = some ⟨[1, 2], [3], []⟩ ∧ hops.length ≤ 7) ∧
      ∃ hops final, Piles.follow? ⟨[1, 2], [3], []⟩ hops = some final ∧ final.solved 3 = true ∧
        hops.length ≤ 7 := by
  have reachable : Piles.Reachable 3 ⟨[1, 2], [3], []⟩ :=
    ((reachable_iff_invariants 3).1 _).2 ⟨Piles.conserved_iff.2 (by decide), by decide⟩
  exact ⟨reachable, (reachable_iff_invariants 3).2.2 _ reachable⟩

end LogPiles
