/-!
# Lines, columns and bracketed lists

Text is laid out on lists of characters, where widths are lengths.  `unlines`
ends every line with a line feed, so lines without one can be read back from
the text: `splitOn_unlines`.
-/

namespace LogPiles.Text

/-- Ends each line with a line feed and joins the lines. -/
def unlines (lines : List (List Char)) : List Char := lines.flatMap (· ++ ['\n'])

/-- So many blanks. -/
def blanks (count : Nat) : List Char := List.replicate count ' '

/-- Centres text in a column.  An odd blank goes to the right, and text that is
wider than the column is left as it is. -/
def centred (width : Nat) (text : List Char) : List Char :=
  let room := width - text.length
  blanks (room / 2) ++ text ++ blanks (room - room / 2)

/-- Moves text to the right end of a column. -/
def flushRight (width : Nat) (text : List Char) : List Char :=
  blanks (width - text.length) ++ text

/-- The decimal digits of a number. -/
def decimal (number : Nat) : List Char := Nat.toDigits 10 number

/-- Items in square brackets, with a comma and a blank between them. -/
def bracketed (items : List (List Char)) : List Char :=
  '[' :: (items.intersperse [',', ' ']).flatten ++ [']']

/-- A list of numbers, such as `[1, 2]`. -/
def numbers (items : List Nat) : List Char := bracketed (items.map decimal)

/-- The text of a number is its decimal digits. -/
theorem toList_toString (number : Nat) : (toString number).toList = decimal number := by
  simp [decimal]

/-- Text that is filled in stands as it is. -/
@[simp]
theorem toString_text (text : String) : toString text = text := rfl

theorem decimal_ne_nil (number : Nat) : decimal number ≠ [] := Nat.toDigits_ne_nil

/-- A character that is not a digit occurs in no number. -/
theorem not_mem_decimal {char : Char} (other : char.isDigit = false) (number : Nat) :
    char ∉ decimal number := by
  intro inside
  have digit : char.isDigit = true := Nat.isDigit_of_mem_toDigits (by decide) (by decide) inside
  rw [other] at digit
  cases digit

@[simp]
theorem newline_not_mem_digits (number : Nat) : '\n' ∉ Nat.toDigits 10 number :=
  not_mem_decimal rfl number

/-- A character that is no bracket, comma or blank and occurs in no item does not occur in the items
in brackets. -/
theorem not_mem_bracketed {char : Char} {items : List (List Char)}
    (mark : char ∉ ['[', ',', ' ', ']']) (absent : ∀ item ∈ items, char ∉ item) :
    char ∉ bracketed items := by
  simp only [List.mem_cons, List.not_mem_nil, or_false, not_or] at mark
  have within : char ∉ (items.intersperse [',', ' ']).flatten := by
    fun_induction items.intersperse [',', ' '] with
    | case1 => exact List.not_mem_nil
    | case2 item => simpa using absent
    | case3 item items _ inductionHypothesis =>
        rw [List.forall_mem_cons] at absent
        simp [absent.1, mark, inductionHypothesis absent.2]
  simp [bracketed, mark, within]

theorem not_mem_numbers {char : Char} (mark : char ∉ ['[', ',', ' ', ']'])
    (other : char.isDigit = false) (items : List Nat) : char ∉ numbers items := by
  refine not_mem_bracketed mark fun item inside => ?_
  obtain ⟨number, -, rfl⟩ := List.mem_map.1 inside
  exact not_mem_decimal other number

@[simp]
theorem unlines_cons (line : List Char) (lines : List (List Char)) :
    unlines (line :: lines) = line ++ '\n' :: unlines lines := by
  simp [unlines]

@[simp]
theorem length_blanks (count : Nat) : (blanks count).length = count := by
  simp [blanks]

/-- Text that fits fills its column exactly. -/
theorem length_centred {width : Nat} {text : List Char} (fits : text.length ≤ width) :
    (centred width text).length = width := by
  simp only [centred, List.length_append, length_blanks]
  omega

/-- Characters of a class are taken up to the first one outside of it. -/
theorem takeWhile_before {kind : Char → Bool} {first rest : List Char}
    (inside : ∀ char ∈ first, kind char = true)
    (outside : ∀ char ∈ rest.head?, kind char = false) :
    (first ++ rest).takeWhile kind = first := by
  rw [List.takeWhile_append_of_pos inside]
  cases rest with
  | nil => exact List.append_nil first
  | cons char rest => simp [outside char rfl]

/-- Characters of a class are dropped up to the first one outside of it. -/
theorem dropWhile_before {kind : Char → Bool} {first rest : List Char}
    (inside : ∀ char ∈ first, kind char = true)
    (outside : ∀ char ∈ rest.head?, kind char = false) :
    (first ++ rest).dropWhile kind = rest := by
  rw [List.dropWhile_append_of_pos inside]
  cases rest with
  | nil => rfl
  | cons char rest => simp [outside char rfl]

/-- Lines without a line feed are the first ones of a text that begins with them. -/
theorem splitOn_unlines {lines : List (List Char)} (plain : ∀ line ∈ lines, '\n' ∉ line)
    (rest : List Char) :
    (unlines lines ++ rest).splitOn '\n' = lines ++ rest.splitOn '\n' := by
  induction lines with
  | nil => rfl
  | cons line lines inductionHypothesis =>
      rw [List.forall_mem_cons] at plain
      rw [unlines_cons, List.append_assoc, List.cons_append,
        List.splitOn_append_cons_self_of_not_mem plain.1, inductionHypothesis plain.2,
        List.cons_append]

end LogPiles.Text
