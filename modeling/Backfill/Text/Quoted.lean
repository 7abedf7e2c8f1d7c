import Backfill.Text.Graphic

/-!
# Quoted text

A text is quoted by double quotes around it. Inside, quotes, backslashes and the common controls
have a backslash form, and any other character that is not graphic is given by its number.
-/

namespace Backfill.Text

/-- The character of the given number as `\\u`, with the number in braces and base sixteen. -/
def numbered (c : Char) : List Char :=
  ['\\', 'u', '\x7b'] ++ Nat.toDigits 16 c.toNat ++ ['\x7d']

/-- A character as it stands between quotes. -/
def quotedChar (c : Char) : List Char :=
  if c = '\x00' then ['\\', '0']
  else if c = '\t' then ['\\', 't']
  else if c = '\r' then ['\\', 'r']
  else if c = '\n' then ['\\', 'n']
  else if c = '\\' ∨ c = '"' then ['\\', c]
  else if isGraphic c then [c]
  else numbered c

/-- A text in double quotes. -/
def quoted (s : String) : String :=
  String.ofList ('"' :: s.toList.flatMap quotedChar ++ ['"'])

end Backfill.Text
