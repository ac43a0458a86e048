/-
Numbers with a fraction, as text.

The digits of a number are found once; what differs between the places where numbers are shown
is only the layout: where the point stands, when an exponent is written instead, and what a whole
number looks like.  So a layout is a record, and each place has its own.
-/
import HealthBoard.Decimal.Integer
import HealthBoard.Decimal.Shortest

namespace HealthBoard.Decimal

/-- How digits and a power of ten are written down. -/
structure Layout where
  /-- Numbers from `10 ^ plainFrom` on, and below `10 ^ plainBelow`, are written without an
  exponent; `none` means all of them are. -/
  plain : Option (Int × Int)
  /-- Whole numbers written without an exponent end in `.0`. -/
  wholeHasPoint : Bool
  /-- An exponent that is not negative has a plus sign. -/
  plusSign : Bool

/-- Layout of numbers in JSON. -/
def jsonLayout : Layout := ⟨some (-5, 16), true, true⟩

/-- Layout of cut-offs in complaints about thresholds. -/
def cutOffLayout : Layout := ⟨some (-4, 16), true, false⟩

/-- Layout of numbers that are turned into settings text: never an exponent, nor an idle point. -/
def settingLayout : Layout := ⟨none, false, false⟩

/-- The digits with the point put where the power of ten says. -/
def Layout.plainText (l : Layout) (ds : List Char) (exponent : Int) : List Char :=
  if 0 ≤ exponent then
    ds ++ List.replicate exponent.toNat '0' ++ (if l.wholeHasPoint then ['.', '0'] else [])
  else
    let places := (-exponent).toNat
    if places < ds.length then
      ds.take (ds.length - places) ++ '.' :: ds.drop (ds.length - places)
    else '0' :: '.' :: List.replicate (places - ds.length) '0' ++ ds

/-- One digit, the rest after a point, and the power of ten that the first digit stands for. -/
def Layout.exponentText (l : Layout) (ds : List Char) (exponent : Int) : List Char :=
  let lead := exponent + (ds.length - 1 : Nat)
  let fraction := ds.drop 1
  ds.take 1 ++ (if fraction.isEmpty then [] else '.' :: fraction) ++
    'e' :: (if l.plusSign && 0 ≤ lead then ['+'] else []) ++ ofInt lead

/-- A decimal in the given layout. -/
def Layout.write (l : Layout) (s : Scaled) : List Char :=
  let ds := Decimal.digits s.digits
  let lead := s.exponent + (ds.length - 1 : Nat)
  match l.plain with
  | none => l.plainText ds s.exponent
  | some (lo, hi) =>
    if s.digits == 0 || (lo ≤ lead && lead < hi) then l.plainText ds s.exponent
    else l.exponentText ds s.exponent

/-- A number in the given layout, with words for what is not a number or not finite. -/
def Layout.chars (l : Layout) (x : Float) : List Char :=
  let bits := x.toBits
  if x.isNaN then "NaN".toList
  else
    let sign := if bits >>> 63 == 1 then ['-'] else []
    if x.isInf then sign ++ "inf".toList
    else sign ++ l.write (Binary.ofBits bits).shortest

def Layout.text (l : Layout) (x : Float) : String := String.ofList (l.chars x)

end HealthBoard.Decimal
