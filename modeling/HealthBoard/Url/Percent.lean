/-
Bytes written as a percent sign and two hexadecimal digits.

Which bytes are written that way depends on the place; how, does not.
-/
import HealthBoard.Text.Utf8

namespace HealthBoard.Url

/-- A hexadecimal digit in upper case. -/
def upperHex (n : Nat) : Char := if n < 10 then Char.ofNat (48 + n) else Char.ofNat (55 + n)

/-- A byte by its number. -/
def percentByte (b : UInt8) : List Char :=
  ['%', upperHex (b.toNat / 16), upperHex (b.toNat % 16)]

/-- The bytes of a text, those that `kept` holds of as they are. -/
def percentEncode (kept : UInt8 → Bool) (s : List Char) : List Char :=
  (s.flatMap String.utf8EncodeChar).flatMap fun b =>
    if kept b then [Char.ofNat b.toNat] else percentByte b

/-- The value of a hexadecimal digit. -/
def hexByte? (b : UInt8) : Option UInt8 :=
  if 0x30 ≤ b ∧ b ≤ 0x39 then some (b - 0x30)
  else if 0x41 ≤ b ∧ b ≤ 0x46 then some (b - 0x37)
  else if 0x61 ≤ b ∧ b ≤ 0x66 then some (b - 0x57)
  else none

/-- The byte that a percent sign and two digits stand for. -/
def percentValue? (sign high low : UInt8) : Option UInt8 := do
  if sign == 0x25 then return (← hexByte? high) * 16 + (← hexByte? low) else none

/-- Undoes percent encoding; a percent sign without two digits after it stands for itself. -/
def percentDecode : List UInt8 → List UInt8
  | b :: high :: low :: rest =>
    match percentValue? b high low with
    | some value => value :: percentDecode rest
    | none => b :: percentDecode (high :: low :: rest)
  | b :: rest => b :: percentDecode rest
  | [] => []

end HealthBoard.Url
