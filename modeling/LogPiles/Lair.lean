import LogPiles.Pile
import LogPiles.Piles

/-!
# Lairs

A lair is three piles together with the outcome of solving it.  It is built
with all its logs in the forest, for sizes up to `sizeLimit`.  `Lair.shift`
moves one log: it takes the top log of a pile, and it refuses, as a breach, to
put it on a log that is not larger.
-/

namespace LogPiles

/-- Three piles, and what is known about solving them. -/
structure Lair where
  size : Nat
  piles : PerSite Pile
  /-- Number of moves of the solution, once there is one. -/
  moves : Nat
  solved : Bool
  deriving DecidableEq

namespace Lair

/-- A lair of a size within the limit, all logs in the forest. -/
def fresh (size : Nat) : Lair where
  size := size
  piles := ⟨.full .forest size, .empty .base size, .empty .hideout size⟩
  moves := 0
  solved := false

/-- Builds a lair of a size that a lair may have. -/
def ofNat (size : Nat) : Except LairError Lair :=
  if size ≤ sizeLimit then .ok (fresh size) else .error (.invalidSize size)

/-- Builds a lair of a signed size; no lair has a negative one. -/
def ofInt : Int → Except LairError Lair
  | .ofNat size => ofNat size
  | .negSucc size => .error (.invalidSize (.negSucc size))

/-- The pile at a site. -/
def pile (lair : Lair) (site : Site) : Pile := lair.piles.get site

/-- The position that the piles form. -/
def position (lair : Lair) : Piles := lair.piles.map Pile.logs

/-- Number of logs on all piles. -/
def count (lair : Lair) : Nat := (lair.piles.map Pile.count).total

/-- Moves the top log of `source` to `target`. -/
def shift (hop : Hop) (lair : Lair) : Except Halt (Log × Lair) :=
  match (lair.pile hop.source).pop with
  | .error error => .error (.error error)
  | .ok (log, rest) =>
    let opened := lair.piles.set hop.source rest
    let target := opened.get hop.target
    if target.accepts log then
      .ok (log, { lair with piles := opened.set hop.target (target.push log) })
    else
      .error (.breach (.smallerBelow log))

@[simp]
theorem position_fresh (size : Nat) : (fresh size).position = Piles.start size := rfl

@[simp]
theorem get_position (lair : Lair) (site : Site) :
    lair.position.get site = (lair.pile site).logs := by
  simp [position, pile]

theorem ofNat_eq_ok_iff {size : Nat} {lair : Lair} :
    ofNat size = .ok lair ↔ size ≤ sizeLimit ∧ lair = fresh size := by
  by_cases within : size ≤ sizeLimit <;> simp [ofNat, within, eq_comm]

theorem ofInt_eq_ok_iff {size : Int} {lair : Lair} :
    ofInt size = .ok lair ↔ 0 ≤ size ∧ size ≤ sizeLimit ∧ lair = fresh size.toNat := by
  cases size with
  | ofNat size => simp [ofInt, ofNat_eq_ok_iff]
  | negSucc size => simp [ofInt]

end Lair

end LogPiles
