/-
Names that are read from right to left.

A name that holds anything of a script written from right to left could be shown in an order
that is not its own, next to digits most of all.  So every part of such a name has to keep to one
direction: it begins with a letter of that direction, holds nothing of the other one, and does
not end in a sign that could be shown on either side.  The marks at its end do not count.
-/
import HealthBoard.Text.Lowercase
import HealthBoard.Text.PrintTable

namespace HealthBoard.Url

/-- The direction in which a character is read. -/
inductive Direction where
  | rightward
  | leftward
  /-- A digit whose direction is that of the text around it. -/
  | digit
  /-- A digit of the Arabic script. -/
  | arabicDigit
  /-- A mark on the character before it. -/
  | mark
  | neutral
  deriving DecidableEq

namespace Direction

/-- Digits of the Arabic script, and the signs between them. -/
def arabicDigitRanges : List (Nat × Nat) := [
    (0x600, 0x605), (0x660, 0x669), (0x66B, 0x66C), (0x6DD, 0x6DD), (0x890, 0x891),
    (0x8E2, 0x8E2), (0x10D30, 0x10D39), (0x10E60, 0x10E7E)]

/-- Letters of the scripts that are written from right to left. -/
def leftwardRanges : List (Nat × Nat) := [
    (0x590, 0x5FF), (0x608, 0x608), (0x60B, 0x60B), (0x60D, 0x60D), (0x61B, 0x64A),
    (0x66D, 0x6D5), (0x6E5, 0x6E6), (0x6EE, 0x6EF), (0x6FA, 0x7F5), (0x7FA, 0x8FF),
    (0xFB1D, 0xFB28), (0xFB2A, 0xFD3D), (0xFD50, 0xFDC7), (0xFDF0, 0xFDFC), (0xFE70, 0xFEFC),
    (0x10800, 0x1091E), (0x10920, 0x10B38), (0x10B40, 0x10FFF), (0x1E800, 0x1EEEF)]

/-- Signs of these scripts that have no direction of their own. -/
def neutralRanges : List (Nat × Nat) := [
    (0x606, 0x607), (0x609, 0x60A), (0x60C, 0x60C), (0x60E, 0x60F), (0x66A, 0x66A),
    (0x6DE, 0x6DE), (0x6E9, 0x6E9), (0x7F6, 0x7F9), (0xFB29, 0xFB29), (0xFD3E, 0xFD4F),
    (0xFDCF, 0xFDCF), (0xFDFD, 0xFDFF), (0x1091F, 0x1091F), (0x10B39, 0x10B3F),
    (0x1EEF0, 0x1EEF1)]

/-- The direction of a character; letters of all other scripts are read rightward. -/
def ofChar (c : Char) : Direction :=
  let n := c.toNat
  if n < 0x80 then if c.isDigit then digit else if c.isAlpha then rightward else neutral
  else if 0x6F0 ≤ n && n ≤ 0x6F9 then digit
  else if Text.inRanges Text.extendingRanges n then mark
  else if Text.inRanges arabicDigitRanges n then arabicDigit
  else if Text.inRanges neutralRanges n then neutral
  else if Text.inRanges leftwardRanges n then leftward
  else rightward

end Direction

/-- The directions of a part without the marks at its end. -/
def directions (part : List Char) : List Direction :=
  ((part.map Direction.ofChar).reverse.dropWhile (· == .mark)).reverse

/-- A part keeps to the direction that it begins with. -/
def keepsDirection (part : List Char) : Bool :=
  let ds := directions part
  match ds.head?, ds.getLast? with
  | some .rightward, some last =>
    !ds.contains .leftward && !ds.contains .arabicDigit && (last == .rightward || last == .digit)
  | some .leftward, some last =>
    !ds.contains .rightward && last != .neutral && !(ds.contains .digit && ds.contains .arabicDigit)
  | some _, _ => false
  | none, _ => part.isEmpty

/-- The parts of a name can be told apart in whatever direction they are read. -/
def keepDirections (parts : List (List Char)) : Bool :=
  let leads (c : Char) : Bool :=
    Direction.ofChar c == .leftward || Direction.ofChar c == .arabicDigit
  !(parts.any fun part => part.any leads) || parts.all keepsDirection

end HealthBoard.Url
