/-
The shortest decimal that reads back as a given number.

A binary number of 64 bits stands for one rational, and the rationals that round to it form an
interval around it.  Of the decimals in that interval we want one with the fewest digits, and of
those the nearest.  For each count of digits the decimals of that count form a grid, and if the
interval holds any of its points then it holds one of the two neighbours of the number itself;
so it is enough to look at two points per grid, in exact arithmetic, until one of them is inside.
Seventeen digits always suffice.
-/
namespace HealthBoard.Decimal

/-- A finite number without its sign: `mantissa * 2 ^ exponent`. -/
structure Binary where
  mantissa : Nat
  exponent : Int
  /-- The next number below is only half as far away as the next one above. -/
  narrowBelow : Bool

/-- What the bits of a finite number say, its sign left aside. -/
def Binary.ofBits (bits : UInt64) : Binary :=
  let fraction : Nat := bits.toNat % Nat.pow 2 52
  let biased : Nat := bits.toNat / Nat.pow 2 52 % Nat.pow 2 11
  if biased == 0 then ⟨fraction, -1074, false⟩
  else ⟨Nat.pow 2 52 + fraction, (biased : Int) - 1075, fraction == 0 && 1 < biased⟩

/-- `base ^ e` as numerator and denominator. -/
def power (base : Nat) (e : Int) : Nat × Nat :=
  if 0 ≤ e then (Nat.pow base e.toNat, 1) else (1, Nat.pow base (-e).toNat)

/-- A decimal: `digits * 10 ^ exponent`. -/
structure Scaled where
  digits : Nat
  exponent : Int
  deriving DecidableEq, Repr

/-- The greatest `p` with `10 ^ p` at most the number, which is not zero. -/
def Binary.magnitude (b : Binary) : Int :=
  -- The binary logarithm gives it up to one, in either direction.
  let guess := ((Nat.log2 b.mantissa : Int) + b.exponent) * 1233 / 4096
  let (n, d) := power 2 b.exponent
  let reaches (p : Int) : Bool :=
    let (pn, pd) := power 10 p
    pn * d ≤ b.mantissa * n * pd
  if reaches (guess + 1) then guess + 1 else if reaches guess then guess else guess - 1

/--
The nearest point of the grid `10 ^ place` that rounds to the number, if one of the number's two
neighbours on the grid does.  A tie goes to the even digit.
-/
def Binary.onGrid? (b : Binary) (place : Int) : Option Nat :=
  -- Everything is compared over one denominator, in quarters of the last binary place.
  let (n, d) := power 2 (b.exponent - 2)
  let (pn, pd) := power 10 place
  let value := 4 * b.mantissa * n * pd
  let low := (4 * b.mantissa - (if b.narrowBelow then 1 else 2)) * n * pd
  let high := (4 * b.mantissa + 2) * n * pd
  let unit := pn * d
  let below := value / unit
  let above := below + 1
  let inside (c : Nat) : Bool :=
    if b.mantissa % 2 == 0 then low ≤ c * unit && c * unit ≤ high
    else low < c * unit && c * unit < high
  match inside below, inside above with
  | false, false => none
  | true, false => some below
  | false, true => some above
  | true, true =>
    let excess := value - below * unit
    let lack := above * unit - value
    if excess < lack || (excess == lack && below % 2 == 0) then some below else some above

/-- Tries the grids of `17 - left` digits and more. -/
def Binary.search (b : Binary) (magnitude : Int) : Nat → Scaled
  | 0 => ⟨0, 0⟩
  | left + 1 =>
    let place := magnitude - (17 - (left + 1 : Nat) : Int)
    match b.onGrid? place with
    | some c => ⟨c, place⟩
    | none => b.search magnitude left

/-- Moves zeros at the end of the digits into the exponent. -/
def Scaled.stripped (s : Scaled) : Scaled :=
  if h : s.digits ≠ 0 ∧ s.digits % 10 = 0 then
    Scaled.stripped ⟨s.digits / 10, s.exponent + 1⟩
  else s
termination_by s.digits
decreasing_by omega

/-- The fewest digits that read back as the number, and of those the nearest. -/
def Binary.shortest (b : Binary) : Scaled :=
  if b.mantissa == 0 then ⟨0, 0⟩ else (b.search b.magnitude 17).stripped

end HealthBoard.Decimal
