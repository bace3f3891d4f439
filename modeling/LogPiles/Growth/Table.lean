import LogPiles.Growth
import LogPiles.Text.Layout

/-!
# The growth curve as text

Points are written as rows of a table with three columns, or as objects of the
JSON format, either on one line or indented by two blanks.
-/

namespace LogPiles

open Text

namespace GrowthPoint

/-- Three columns, the first four and the others twelve characters wide. -/
def columns (size moves reference : List Char) : String :=
  String.ofList (flushRight 4 size ++ blanks 2 ++ flushRight 12 moves ++ blanks 2 ++
    flushRight 12 reference)

/-- The heading of the table. -/
def heading : String := columns "size".toList "moves".toList "2^size".toList

/-- The row of a point. -/
def row (point : GrowthPoint) : String :=
  columns (decimal point.size) (decimal point.moves) (decimal point.reference)

/-- The members of the object for a point. -/
def members (point : GrowthPoint) : List (String × Nat) :=
  [("size", point.size), ("moves", point.moves), ("reference", point.reference)]

/-- The object for a point, on one line. -/
def compact (point : GrowthPoint) : String :=
  let members := point.members.map fun (name, value) => s!"\"{name}\":{value}"
  "\x7b" ++ ",".intercalate members ++ "\x7d"

/-- The object for a point, one member a line, each behind a margin. -/
def indented (margin : String) (point : GrowthPoint) : String :=
  let members := point.members.map fun (name, value) => margin ++ s!"  \"{name}\": {value}"
  margin ++ "\x7b\n" ++ ",\n".intercalate members ++ "\n" ++ margin ++ "\x7d"

/-- The array of some points, on one line. -/
def compactArray (points : List GrowthPoint) : String :=
  "[" ++ ",".intercalate (points.map compact) ++ "]"

/-- The array of some points, one member a line. -/
def indentedArray : List GrowthPoint → String
  | [] => "[]"
  | points => "[\n" ++ ",\n".intercalate (points.map (indented "  ")) ++ "\n]"

end GrowthPoint

end LogPiles
