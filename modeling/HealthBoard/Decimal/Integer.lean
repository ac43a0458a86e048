/-
Whole numbers of 64 bits, and their decimal text.

Timestamps, counts and intervals are 64-bit.  Where a computation could leave that range it is
done on exact integers and clamped afterwards, so that a sum past the end is the end and not a
number on the other side.

A decimal is read from left to right, and the first thing wrong with it is the complaint: a
character that is no digit, or the digit at which the number leaves the range.
-/
namespace HealthBoard

/-- The least 64-bit integer. -/
def leastInteger : Int := -9223372036854775808

/-- The greatest 64-bit integer. -/
def greatestInteger : Int := 9223372036854775807

/-- The 64-bit integer nearest to an exact one. -/
def clamp (n : Int) : Int64 :=
  Int64.ofInt (if n < leastInteger then leastInteger
    else if greatestInteger < n then greatestInteger else n)

namespace Decimal

/-- Why a text is no decimal of the range asked for. -/
inductive IntegerFault where
  | empty
  | badDigit
  | tooLarge
  | tooSmall
  deriving DecidableEq, Repr

def IntegerFault.message : IntegerFault → String
  | .empty => "cannot parse integer from empty string"
  | .badDigit => "invalid digit found in string"
  | .tooLarge => "number too large to fit in target type"
  | .tooSmall => "number too small to fit in target type"

/-- The value of a decimal digit. -/
def digitValue? (c : Char) : Option Nat :=
  if '0' ≤ c ∧ c ≤ '9' then some (c.toNat - '0'.toNat) else none

/-- The digit of a value below ten. -/
def digitChar (d : Nat) : Char := Char.ofNat ('0'.toNat + d)

/-- The digits of a natural number, the greatest first and none in front of it. -/
def digits (n : Nat) : List Char :=
  if n < 10 then [digitChar n] else digits (n / 10) ++ [digitChar (n % 10)]

/-- The decimal of an integer. -/
def ofInt (n : Int) : List Char :=
  if n < 0 then '-' :: digits n.natAbs else digits n.natAbs

/-- The decimal of an integer, as text. -/
def text (n : Int) : String := String.ofList (ofInt n)

/--
Reads digits after a value already read, up to a greatest value.  The digit is looked at before
the range is, so a stray character is the complaint only as long as the number still fits.
-/
def magnitude (greatest : Nat) (overflow : IntegerFault) :
    Nat → List Char → Except IntegerFault Nat
  | value, [] => .ok value
  | value, c :: rest =>
    match digitValue? c with
    | none => .error .badDigit
    | some d =>
      if greatest < 10 * value + d then .error overflow
      else magnitude greatest overflow (10 * value + d) rest

/-- A decimal from `least` to `greatest`: one sign or none, then at least one digit. -/
def readBetween (least greatest : Int) (s : List Char) : Except IntegerFault Int :=
  match s with
  | [] => .error .empty
  | ['+'] | ['-'] => .error .badDigit
  | '+' :: rest => (magnitude greatest.toNat .tooLarge 0 rest).map Int.ofNat
  | '-' :: rest => (magnitude (-least).toNat .tooSmall 0 rest).map fun n => -Int.ofNat n
  | rest => (magnitude greatest.toNat .tooLarge 0 rest).map Int.ofNat

/-- A decimal of the 64-bit range. -/
def readInteger (s : String) : Except IntegerFault Int64 :=
  (readBetween leastInteger greatestInteger s.toList).map Int64.ofInt

/-- A decimal of 64 bits that is not negative; a minus sign is no digit of one. -/
def readNatural (s : String) : Except IntegerFault UInt64 :=
  match s.toList with
  | '-' :: _ => .error .badDigit
  | cs => (readBetween 0 18446744073709551615 cs).map fun n => n.toNat.toUInt64

end Decimal
end HealthBoard
