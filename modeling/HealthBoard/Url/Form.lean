/-
Names and values in a query.

A name and its value are joined by an equals sign and the pairs by ampersands, and in either a
space is a plus sign.  Everything that could be taken for one of these is written by its number,
so what was put in can be read back whatever it was.
-/
import HealthBoard.Url.Percent

namespace HealthBoard.Url.Form

/-- The bytes that stand for themselves: letters, digits and four signs. -/
def isKept (b : UInt8) : Bool :=
  (0x30 ≤ b && b ≤ 0x39) || (0x41 ≤ b && b ≤ 0x5A) || (0x61 ≤ b && b ≤ 0x7A) ||
    b == 0x2A || b == 0x2D || b == 0x2E || b == 0x5F

/-- One byte of a name or a value. -/
def encodeByte (b : UInt8) : List Char :=
  if b == 0x20 then ['+']
  else if isKept b then [Char.ofNat b.toNat]
  else percentByte b

/-- A name or a value. -/
def encodeText (s : String) : List Char :=
  (s.toList.flatMap String.utf8EncodeChar).flatMap encodeByte

/-- A name and its value. -/
def encodePair (pair : String × String) : List Char :=
  encodeText pair.1 ++ '=' :: encodeText pair.2

/-- All pairs in their order. -/
def encode : List (String × String) → List Char
  | [] => []
  | [pair] => encodePair pair
  | pair :: rest => encodePair pair ++ '&' :: encode rest

/-- The parts between separators. -/
def splitOn (separator : UInt8) : List UInt8 → List (List UInt8)
  | [] => [[]]
  | b :: rest =>
    if b == separator then [] :: splitOn separator rest
    else match splitOn separator rest with
      | part :: parts => (b :: part) :: parts
      | [] => [[b]]

/-- A name or a value as text again. -/
def decodeText (bytes : List UInt8) : String :=
  Text.decodeLossy (percentDecode (bytes.map fun b => if b == 0x2B then 0x20 else b))

/-- A name and its value, split at the first equals sign; without one, the value is empty. -/
def decodePair (bytes : List UInt8) : String × String :=
  (decodeText (bytes.takeWhile (· != 0x3D)), decodeText ((bytes.dropWhile (· != 0x3D)).drop 1))

/-- The pairs of a query; empty parts are none. -/
def decode (query : List UInt8) : List (String × String) :=
  ((splitOn 0x26 query).filter fun part => !part.isEmpty).map decodePair

end HealthBoard.Url.Form
