/-
Texts in quotes, as complaints show them.

Inside the quotes a character stands for itself if it can be seen and told apart from its
neighbours; the others are spelled out, so that a complaint shows exactly which text was refused.
-/
import HealthBoard.Text.Lowercase
import HealthBoard.Text.PrintTable

namespace HealthBoard.Text

/-- A character that stands for itself between quotes. -/
def isPlain (c : Char) : Bool :=
  let n := c.toNat
  if n < 0x80 then 0x20 ≤ n && n < 0x7F
  else !inRanges extendingRanges n && !inRanges unprintableRanges n

/-- A character by its number, in lower-case hexadecimal without leading zeros. -/
def spelledOut (c : Char) : List Char :=
  ['\\', 'u', '\x7b'] ++ Nat.toDigits 16 c.toNat ++ ['\x7d']

/-- One character between quotes. -/
def quotedChar (c : Char) : List Char :=
  if c == Char.ofNat 0 then ['\\', '0']
  else if c == '\t' then ['\\', 't']
  else if c == '\r' then ['\\', 'r']
  else if c == '\n' then ['\\', 'n']
  else if c == '"' then ['\\', '"']
  else if c == '\\' then ['\\', '\\']
  else if isPlain c then [c]
  else spelledOut c

/-- A text between double quotes. -/
def quoted (s : String) : String :=
  String.ofList ('"' :: s.toList.flatMap quotedChar ++ ['"'])

end HealthBoard.Text
