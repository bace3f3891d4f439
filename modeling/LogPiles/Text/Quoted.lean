import LogPiles.Text.Invisible

/-!
# Quoted text

Text is quoted so that every character can be read off the page.  Quotation
marks, backslashes and the common controls have escapes of their own, and any
other character without a shape is written by its code point.
-/

namespace LogPiles.Text

/-- A character as it is written between quotation marks. -/
def escaped (char : Char) : List Char :=
  match char with
  | '\x00' => ['\\', '0']
  | '\t' => ['\\', 't']
  | '\r' => ['\\', 'r']
  | '\n' => ['\\', 'n']
  | '\\' => ['\\', '\\']
  | '"' => ['\\', '"']
  | _ =>
    if isInvisible char then
      ['\\', 'u', '\x7b'] ++ Nat.toDigits 16 char.toNat ++ ['\x7d']
    else
      [char]

/-- A text between quotation marks. -/
def quoted (text : List Char) : List Char := '"' :: text.flatMap escaped ++ ['"']

end LogPiles.Text
