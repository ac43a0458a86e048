/-
Dates and times of the day.

A moment is a date, a time, or a date and a time with or without the distance from universal time.
It is kept in its usual form: a capital letter between date and time, seconds always given, and no
idle zeros at the end of their fraction.
-/
import HealthBoard.Decimal.Integer
import HealthBoard.Decimal.Reading

namespace HealthBoard.Toml

open Decimal

/-- As many digits as asked for, with their value, and what follows them. -/
def digitsOf? (count : Nat) (cs : List Char) : Option (Nat × List Char) :=
  let ds := cs.take count
  if ds.length == count && ds.all Char.isDigit then some (digitsValue ds, cs.drop count) else none

/-- What follows a given character. -/
def after? (c : Char) : List Char → Option (List Char)
  | d :: rest => if d == c then some rest else none
  | [] => none

def isLeapYear (year : Nat) : Bool := year % 4 == 0 && (year % 100 != 0 || year % 400 == 0)

def daysOfMonth (year month : Nat) : Nat :=
  if month == 2 then (if isLeapYear year then 29 else 28)
  else if [4, 6, 9, 11].contains month then 30 else 31

/-- A number below a hundred, with two digits. -/
def twoDigits (n : Nat) : List Char := [digitChar (n / 10), digitChar (n % 10)]

/-- A date, and what follows it. -/
def date? (cs : List Char) : Option (List Char × List Char) := do
  let (year, rest) ← digitsOf? 4 cs
  let (month, rest) ← digitsOf? 2 (← after? '-' rest)
  let (day, rest) ← digitsOf? 2 (← after? '-' rest)
  if month < 1 || 12 < month || day < 1 || daysOfMonth year month < day then none
  else return (cs.take 10, rest)

/-- The fraction of a second, nine digits of it at most and none that is idle. -/
def fractionText (ds : List Char) : List Char :=
  let ds := ((ds.take 9).reverse.dropWhile (· == '0')).reverse
  if ds.isEmpty then [] else '.' :: ds

/-- A time of the day, and what follows it. -/
def time? (cs : List Char) : Option (List Char × List Char) := do
  let (hour, rest) ← digitsOf? 2 cs
  let (minute, rest) ← digitsOf? 2 (← after? ':' rest)
  let (second, rest) ← digitsOf? 2 (← after? ':' rest)
  if 23 < hour || 59 < minute || 60 < second then none
  else
    match rest with
    | '.' :: more =>
      let ds := more.takeWhile Char.isDigit
      if ds.isEmpty then none
      else return (cs.take 8 ++ fractionText ds, more.dropWhile Char.isDigit)
    | rest => return (cs.take 8, rest)

/-- The distance from universal time, and what follows it. -/
def offset? (cs : List Char) : Option (List Char × List Char) :=
  match cs with
  | 'Z' :: rest | 'z' :: rest => some (['Z'], rest)
  | sign :: rest =>
    if sign == '+' || sign == '-' then do
      let (hours, rest) ← digitsOf? 2 rest
      let (minutes, rest) ← digitsOf? 2 (← after? ':' rest)
      if 23 < hours || 59 < minutes then none
      else return (sign :: twoDigits hours ++ ':' :: twoDigits minutes, rest)
    else none
  | [] => none

/-- A date, a time or both, and what follows. -/
def moment? (cs : List Char) : Option (List Char × List Char) :=
  match date? cs with
  | none => time? cs
  | some (date, rest) =>
    match rest with
    | c :: more =>
      if c == 'T' || c == 't' || c == ' ' then
        match time? more with
        | none => some (date, rest)
        | some (time, rest) =>
          match offset? rest with
          | some (offset, rest) => some (date ++ 'T' :: time ++ offset, rest)
          | none => some (date ++ 'T' :: time, rest)
      else some (date, rest)
    | [] => some (date, [])

end HealthBoard.Toml
