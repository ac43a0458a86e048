/-
White space, and texts without it at their ends.

Names, keywords and stored numbers are compared after their outer white space is gone, so which
characters count is part of every answer.  The rule is the standard's own property and not the
four or five characters of ASCII: a name that ends in a no-break space is the same name.
-/
namespace HealthBoard.Text

/-- White space, the property `White_Space` of the Unicode standard. -/
def isBlank (c : Char) : Bool :=
  let n := c.toNat
  (0x9 ≤ n && n ≤ 0xD) || n == 0x20 || n == 0x85 || n == 0xA0 || n == 0x1680 ||
  (0x2000 ≤ n && n ≤ 0x200A) || n == 0x2028 || n == 0x2029 || n == 0x202F || n == 0x205F ||
  n == 0x3000

/-- A list of characters without the white space at its two ends. -/
def trimChars (cs : List Char) : List Char :=
  ((cs.dropWhile isBlank).reverse.dropWhile isBlank).reverse

/-- A text without the white space at its two ends. -/
def trim (s : String) : String := String.ofList (trimChars s.toList)

/-- Nothing but white space. -/
def isAllBlank (s : String) : Bool := s.toList.all isBlank

end HealthBoard.Text
