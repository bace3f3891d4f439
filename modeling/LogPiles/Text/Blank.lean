import LogPiles.Text.Layout

/-!
# Blanks around a text

A blank is a character with the Unicode property `White_Space`.  `trim` takes
the blanks off both ends of a text and leaves those inside, and `exists_blanks`
says that it takes off nothing else.  A text without blanks is therefore what is
left of it between any blanks: `trim_between`.
-/

namespace LogPiles.Text

/-- Whether a character has the property `White_Space`. -/
def isBlank (char : Char) : Bool :=
  let code := char.toNat
  (0x9 ≤ code && code ≤ 0xd) || code == 0x20 || code == 0x85 || code == 0xa0 ||
    code == 0x1680 || (0x2000 ≤ code && code ≤ 0x200a) || code == 0x2028 || code == 0x2029 ||
    code == 0x202f || code == 0x205f || code == 0x3000

/-- Takes the blanks off the right end. -/
def trimRight (text : List Char) : List Char := (text.reverse.dropWhile isBlank).reverse

/-- Takes the blanks off both ends. -/
def trim (text : List Char) : List Char := trimRight (text.dropWhile isBlank)

/-- A text is what is left of it between blanks. -/
theorem exists_blanks (text : List Char) :
    ∃ before after, text = before ++ trim text ++ after ∧
      before.all isBlank = true ∧ after.all isBlank = true := by
  refine ⟨text.takeWhile isBlank,
    ((text.dropWhile isBlank).reverse.takeWhile isBlank).reverse, ?_, ?_, ?_⟩
  · rw [trim, trimRight, List.append_assoc, ← List.reverse_append,
      List.takeWhile_append_dropWhile, List.reverse_reverse, List.takeWhile_append_dropWhile]
  · simp
  · simp [List.all_reverse]

/-- A text without blanks is what is left of it between blanks. -/
theorem trim_between {before text after : List Char}
    (before_blank : ∀ char ∈ before, isBlank char = true)
    (after_blank : ∀ char ∈ after, isBlank char = true)
    (bare : ∀ char ∈ text, isBlank char = false) : trim (before ++ text ++ after) = text := by
  have head : ∀ char ∈ text.head?, isBlank char = false :=
    fun char first => bare char (List.mem_of_mem_head? first)
  have right : trimRight (text ++ after) = text := by
    rw [trimRight, List.reverse_append, dropWhile_before, List.reverse_reverse]
    · exact fun char inside => after_blank char (List.mem_reverse.1 inside)
    · intro char last
      exact bare char (List.mem_reverse.1 (List.mem_of_mem_head? last))
  cases text with
  | nil =>
      -- nothing is left to stop the blanks behind from being taken off with those before
      have none : (before ++ [] ++ after).dropWhile isBlank = [] := by
        rw [List.append_nil, ← List.append_nil (before ++ after)]
        refine dropWhile_before (fun char inside => ?_) (by simp)
        exact (List.mem_append.1 inside).elim (before_blank char) (after_blank char)
      rw [trim, none]
      rfl
  | cons char rest =>
      rw [trim, List.append_assoc, dropWhile_before before_blank (by simpa using head), right]

end LogPiles.Text
