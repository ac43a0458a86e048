/-
Reading a decimal with a fraction.

A sign, digits with a point among them or none, and an exponent or none; or the words for what is
infinite or no number, in any case.  The number read is the nearest there is.
-/
import HealthBoard.Decimal.Integer

namespace HealthBoard.Decimal

/-- The value of digits, the greatest first. -/
def digitsValue (ds : List Char) : Nat :=
  ds.foldl (fun n c => 10 * n + (c.toNat - '0'.toNat)) 0

/-- The number nearest to `mantissa * 10 ^ exponent`. -/
def nearest (mantissa : Nat) (exponent : Int) : Float :=
  let lead := (digits mantissa).length + exponent
  if mantissa == 0 then 0
  -- Far outside the range the power of ten need not be worked out.
  else if 400 < lead then 1 / 0
  else if lead < -400 then 0
  else Float.ofScientific mantissa (decide (exponent < 0)) exponent.natAbs

/-- An exponent after its letter: a sign or none, then at least one digit. -/
def readExponent? (s : List Char) : Option Int :=
  let (negative, ds) := match s with
    | '+' :: rest => (false, rest)
    | '-' :: rest => (true, rest)
    | rest => (false, rest)
  if ds.isEmpty || !ds.all Char.isDigit then none
  else some (if negative then -(digitsValue ds : Int) else digitsValue ds)

/-- A decimal without its sign. -/
def readUnsigned? (s : List Char) : Option Float :=
  let word := s.map Char.toLower
  if word == "inf".toList || word == "infinity".toList then some (1 / 0)
  else if word == "nan".toList then some (0 / 0)
  else
    let whole := s.takeWhile Char.isDigit
    let rest := s.dropWhile Char.isDigit
    let (fraction, rest) := match rest with
      | '.' :: rest => (rest.takeWhile Char.isDigit, rest.dropWhile Char.isDigit)
      | rest => ([], rest)
    if whole.isEmpty && fraction.isEmpty then none
    else
      let mantissa := digitsValue (whole ++ fraction)
      match rest with
      | [] => some (nearest mantissa (-fraction.length))
      | c :: rest =>
        if c == 'e' || c == 'E' then
          (readExponent? rest).map fun e => nearest mantissa (e - fraction.length)
        else none

/-- A decimal, if the text is one. -/
def readFloat? (s : String) : Option Float :=
  match s.toList with
  | '-' :: rest => (readUnsigned? rest).map fun x => -x
  | '+' :: rest => readUnsigned? rest
  | rest => readUnsigned? rest

end HealthBoard.Decimal
