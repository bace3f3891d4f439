import LogPiles.Lair
import LogPiles.Text.Layout

/-!
# Drawings of a lair

The three piles are drawn side by side as boxes.  A box has the label of its
site on top, a row for each log that the pile can hold, and a border above and
below the rows; the top log is in the first row.
-/

namespace LogPiles.Drawing

open Text

/-- Inner width of a box. -/
def boxWidth : Nat := 10

/-- The upper and the lower end of a box. -/
def border : List Char := '+' :: List.replicate boxWidth '-' ++ ['+']

/-- A row of a box, with its content centred. -/
def row (content : List Char) : List Char := '|' :: centred boxWidth content ++ ['|']

/-- So many rows: one for each log as far as they reach, then empty ones. -/
def rows : Nat → List Log → List (List Char)
  | 0, _ => []
  | count + 1, [] => row [] :: rows count []
  | count + 1, log :: logs => row (decimal log) :: rows count logs

/-- The lines of one box. -/
def box (pile : Pile) : List (List Char) :=
  centred (boxWidth + 2) pile.site.label.toList :: border ::
    rows pile.capacity pile.logs ++ [border]

/-- Sets three boxes side by side, as far as the shortest of them reaches. -/
def beside (boxes : PerSite (List (List Char))) : List (List Char) :=
  List.zipWith (fun left (middle, right) => left ++ ' ' :: middle ++ ' ' :: right)
    boxes.forest (List.zip boxes.base boxes.hideout)

/-- The lines of the drawing of a lair. -/
def lines (lair : Lair) : List (List Char) := beside (lair.piles.map box)

/-- The drawing of a lair. -/
def text (lair : Lair) : String := String.ofList (unlines (lines lair))

@[simp]
theorem length_rows (count : Nat) (logs : List Log) : (rows count logs).length = count := by
  induction count generalizing logs with
  | zero => rfl
  | succ count inductionHypothesis => cases logs <;> simp [rows, inductionHypothesis]

@[simp]
theorem length_box (pile : Pile) : (box pile).length = pile.capacity + 3 := by
  simp [box]

end LogPiles.Drawing
