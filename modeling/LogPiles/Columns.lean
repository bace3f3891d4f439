import LogPiles.Piles

/-!
# Columns

The game lists the logs of a site from the top.  Whoever moves logs without the
game, to walk at random or to replay a history, lists them from the bottom and
lets them come and go at the end.  `Columns` is this other way to keep a
position, `Columns.piles` turns it over into the position of the game, and
`Piles.columns` turns that back.

The last log of a column is the top log of the pile (`Columns.top?_piles`), and to
carry a log from the end of one column to the end of another is to carry the top
log of a pile (`Columns.piles_shift`).  Whatever is done with columns is compared
with the game through these two.
-/

namespace LogPiles

/-- The logs at each site, bottom first. -/
abbrev Columns := PerSite (Array Log)

/-- A position turned over, with the logs of a site bottom first. -/
def Piles.columns (piles : Piles) : Columns := piles.map fun logs => logs.reverse.toArray

namespace Columns

/-- Every log lies in the forest, smallest at the end. -/
def start (size : Nat) : Columns := ⟨(logsUpTo size).reverse.toArray, #[], #[]⟩

/-- The position, with the logs of a site top first. -/
def piles (columns : Columns) : Piles := columns.map fun column => column.toList.reverse

/-- The log at the end of a column, if there is one. -/
def last? (columns : Columns) (site : Site) : Option Log := (columns.get site).back?

/-- Takes the last log of the source away and puts a log at the end of the target. -/
def shift (columns : Columns) (hop : Hop) (log : Log) : Columns :=
  (columns.modify hop.source Array.pop).modify hop.target (·.push log)

variable {columns : Columns} {hop : Hop} {log : Log}

@[simp]
theorem piles_start (size : Nat) : (start size).piles = Piles.start size := by
  simp [piles, start, Piles.start, PerSite.map]

@[simp]
theorem columns_piles (columns : Columns) : columns.piles.columns = columns := by
  simp [piles, Piles.columns, PerSite.map]

/-- The last log of a column is the top log of the site. -/
@[simp]
theorem top?_piles (columns : Columns) (site : Site) :
    columns.piles.top? site = columns.last? site := by
  simp [piles, Piles.top?, last?]

/-- Taking a log off the end of one column and putting it at the end of another is what the game
does with the top logs. -/
theorem piles_shift (last : columns.last? hop.source = some log) :
    (columns.shift hop log).piles = columns.piles.carry hop := by
  obtain ⟨rest, split⟩ := Array.back?_eq_some_iff.1 last
  have held : columns.piles.get hop.source = log :: rest.toList.reverse := by simp [piles, split]
  have taken : columns.modify hop.source Array.pop = columns.set hop.source rest := by
    rw [PerSite.modify, split, Array.pop_push]
  have left : columns.piles.set hop.source rest.toList.reverse =
      (columns.set hop.source rest).map fun column => column.toList.reverse := by
    rw [PerSite.map_set, piles]
  rw [Piles.carry, held]
  dsimp only
  rw [left, piles, shift, taken, Piles.put, PerSite.modify, PerSite.modify, PerSite.map_set,
    PerSite.get_map, Array.toList_push, List.reverse_concat]

end Columns

@[simp]
theorem Piles.piles_columns (piles : Piles) : piles.columns.piles = piles := by
  simp [Piles.columns, Columns.piles, PerSite.map]

end LogPiles
