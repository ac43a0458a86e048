/-
The text of a JSON value: no blanks, members in their order, and in a string only what has to be
escaped.  A number that is not finite has no text in JSON and is written as `null`.
-/
import HealthBoard.Decimal.Layout
import HealthBoard.Json.Value

namespace HealthBoard.Json

/-- A hexadecimal digit in lower case. -/
def hexDigit (n : Nat) : Char := if n < 10 then Char.ofNat (48 + n) else Char.ofNat (87 + n)

/-- One character of a string: quotes, backslashes and control characters are escaped. -/
def escapeChar (c : Char) : List Char :=
  if c == '"' then ['\\', '"']
  else if c == '\\' then ['\\', '\\']
  else if c.toNat < 0x20 then
    match c.toNat with
    | 0x08 => ['\\', 'b']
    | 0x09 => ['\\', 't']
    | 0x0A => ['\\', 'n']
    | 0x0C => ['\\', 'f']
    | 0x0D => ['\\', 'r']
    | n => ['\\', 'u', '0', '0', hexDigit (n / 16), hexDigit (n % 16)]
  else [c]

/-- A string with its quotes. -/
def stringChars (s : String) : List Char := '"' :: (s.toList.flatMap escapeChar ++ ['"'])

/-- A number that may have a fraction. -/
def floatChars (x : Float) : List Char :=
  if x.isFinite then Decimal.jsonLayout.chars x else "null".toList

mutual
/-- The text of a value, as characters. -/
def chars : Json → List Char
  | .null => ['n', 'u', 'l', 'l']
  | .bool true => ['t', 'r', 'u', 'e']
  | .bool false => ['f', 'a', 'l', 's', 'e']
  | .int n => Decimal.ofInt n
  | .float x => floatChars x
  | .str s => stringChars s
  | .arr items => '[' :: (itemsChars items ++ [']'])
  | .obj members => '\x7b' :: (membersChars members ++ ['\x7d'])

def itemsChars : List Json → List Char
  | [] => []
  | item :: rest => chars item ++ restItemsChars rest

/-- Every further item stands after a comma. -/
def restItemsChars : List Json → List Char
  | [] => []
  | item :: rest => ',' :: (chars item ++ restItemsChars rest)

def membersChars : List (String × Json) → List Char
  | [] => []
  | (name, value) :: rest => stringChars name ++ ':' :: (chars value ++ restMembersChars rest)

/-- Every further member stands after a comma. -/
def restMembersChars : List (String × Json) → List Char
  | [] => []
  | (name, value) :: rest =>
    ',' :: (stringChars name ++ ':' :: (chars value ++ restMembersChars rest))
end

/-- The text of a value. -/
def render (j : Json) : String := String.ofList j.chars

end HealthBoard.Json
