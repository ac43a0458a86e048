/-
Bytes that should be text but need not be.

What cannot be text is replaced: each longest stretch of bytes that could have begun a character
but did not finish one becomes one replacement character.  The bytes are read by a machine that
knows how many more the character needs and between which bounds the next one has to lie.
-/
namespace HealthBoard.Text

/-- What the machine waits for: the bytes still needed, the bounds of the next one, and the code
so far. -/
structure Pending where
  needed : Nat
  least : UInt8
  greatest : UInt8
  code : Nat

/-- Stands for what is no text. -/
def replacement : Char := Char.ofNat 0xFFFD

/-- A byte where a character may begin. -/
def firstByte (b : UInt8) : Option Pending × List Char :=
  let n := b.toNat
  if n < 0x80 then (none, [Char.ofNat n])
  else if 0xC2 ≤ n ∧ n ≤ 0xDF then (some ⟨1, 0x80, 0xBF, n - 0xC0⟩, [])
  else if 0xE0 ≤ n ∧ n ≤ 0xEF then
    (some ⟨2, if n == 0xE0 then 0xA0 else 0x80, if n == 0xED then 0x9F else 0xBF, n - 0xE0⟩, [])
  else if 0xF0 ≤ n ∧ n ≤ 0xF4 then
    (some ⟨3, if n == 0xF0 then 0x90 else 0x80, if n == 0xF4 then 0x8F else 0xBF, n - 0xF0⟩, [])
  else (none, [replacement])

/-- One byte: what is waited for after it, and the characters that are now known. -/
def utf8Step (pending : Option Pending) (b : UInt8) : Option Pending × List Char :=
  match pending with
  | none => firstByte b
  | some p =>
    if p.least ≤ b ∧ b ≤ p.greatest then
      let code := p.code * 64 + (b.toNat - 0x80)
      if p.needed ≤ 1 then (none, [Char.ofNat code])
      else (some ⟨p.needed - 1, 0x80, 0xBF, code⟩, [])
    else
      let (pending, out) := firstByte b
      (pending, replacement :: out)

/-- Text from bytes, from a given state of the machine on. -/
def decodeFrom (pending : Option Pending) : List UInt8 → List Char
  | [] => if pending.isSome then [replacement] else []
  | b :: rest =>
    let (pending, out) := utf8Step pending b
    out ++ decodeFrom pending rest

/-- Text from bytes; what is no text is replaced. -/
def decodeLossy (bytes : List UInt8) : String := String.ofList (decodeFrom none bytes)

end HealthBoard.Text
