import LogPiles.Text.Layout

/-!
# Decimal numerals

A numeral is one or more of the ten ASCII digits, possibly behind a sign.
Leading zeros do not matter, and how large the number may be is left to whoever
reads it.  What is written as the digits of a number is read back as that number:
`digits?_decimal`.
-/

namespace LogPiles.Text

/-- Whether a character is one of the ten digits. -/
def isDigit (char : Char) : Bool := '0' ≤ char && char ≤ '9'

/-- The number that some digits stand for. -/
def digitsValue (digits : List Char) : Nat :=
  digits.foldl (fun value digit => 10 * value + (digit.toNat - '0'.toNat)) 0

/-- Reads one or more digits. -/
def digits? (text : List Char) : Option Nat :=
  if text ≠ [] ∧ text.all isDigit then some (digitsValue text) else none

/-- Reads digits behind an optional plus. -/
def natural? : List Char → Option Nat
  | '+' :: digits => digits? digits
  | text => digits? text

/-- Reads digits behind an optional sign. -/
def integer? : List Char → Option Int
  | '-' :: digits => (digits? digits).map fun value => -(value : Int)
  | text => (natural? text).map fun value => (value : Int)

theorem digits?_eq_some_iff {text : List Char} {value : Nat} :
    digits? text = some value ↔
      text ≠ [] ∧ text.all isDigit = true ∧ digitsValue text = value := by
  simp [digits?, and_assoc]

theorem isDigit_eq (char : Char) : isDigit char = char.isDigit := by
  simp [isDigit, Char.isDigit, Char.le_def]

theorem isDigit_of_mem_decimal {char : Char} {number : Nat} (inside : char ∈ decimal number) :
    isDigit char = true := by
  rw [isDigit_eq]
  exact Nat.isDigit_of_mem_toDigits (by decide) (by decide) inside

theorem digitsValue_decimal (number : Nat) : digitsValue (decimal number) = number :=
  Nat.ofDigitChars_ten_toDigits

/-- A number is read back from its digits. -/
theorem digits?_decimal (number : Nat) : digits? (decimal number) = some number := by
  refine digits?_eq_some_iff.2 ⟨decimal_ne_nil number, ?_, digitsValue_decimal number⟩
  rw [List.all_eq_true]
  exact fun char => isDigit_of_mem_decimal

/-- The digits of a number are found again in its column. -/
theorem filter_isDigit_centred (width number : Nat) :
    (centred width (decimal number)).filter isDigit = decimal number := by
  have blank : isDigit ' ' = false := by decide
  have digits : (decimal number).filter isDigit = decimal number :=
    List.filter_eq_self.2 fun char => isDigit_of_mem_decimal
  simp [centred, blanks, blank, digits]

/-- Different numbers have different digits. -/
theorem decimal_injective : Function.Injective decimal := by
  intro left right same
  have read : digits? (decimal left) = digits? (decimal right) := congrArg digits? same
  rwa [digits?_decimal, digits?_decimal, Option.some.injEq] at read

end LogPiles.Text
