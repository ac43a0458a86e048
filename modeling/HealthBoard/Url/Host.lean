/-
The host part of an address.

A host is a name, or an address of four or of sixteen bytes.  What looks like a number at its end
has to be an address of four bytes, written in any of the old ways: fewer parts than four, octal
or hexadecimal ones.  A name may be in any script; it is lowered, and a few characters count as
others or as nothing.
-/
import HealthBoard.Text.Quoted
import HealthBoard.Url.Direction
import HealthBoard.Url.Percent

namespace HealthBoard.Url

/-- Why a text is no address. -/
inductive Fault where
  | noScheme
  | emptyHost
  | badPort
  | badIpv4
  | badIpv6
  | badName
  | badCharacter
  deriving DecidableEq, Repr

def Fault.message : Fault → String
  | .noScheme => "relative URL without a base"
  | .emptyHost => "empty host"
  | .badPort => "invalid port number"
  | .badIpv4 => "invalid IPv4 address"
  | .badIpv6 => "invalid IPv6 address"
  | .badName => "invalid international domain name"
  | .badCharacter => "invalid domain character"

inductive Host where
  | name (chars : List Char)
  | ipv4 (address : Nat)
  | ipv6 (pieces : List Nat)
  deriving DecidableEq

/-- The parts of a list between separators. -/
def splitChars (separates : Char → Bool) : List Char → List (List Char)
  | [] => [[]]
  | c :: rest =>
    if separates c then [] :: splitChars separates rest
    else match splitChars separates rest with
      | part :: parts => (c :: part) :: parts
      | [] => [[c]]

/-- The value of a hexadecimal digit. -/
def hexDigit? (c : Char) : Option Nat := if c.toNat < 0x80 then
    (hexByte? c.toNat.toUInt8).map UInt8.toNat else none

/-! ### Four bytes -/

/-- The value of digits of a base up to sixteen. -/
def digitsIn? (base : Nat) (ds : List Char) : Option Nat :=
  ds.foldl (fun acc c => do
    let d ← hexDigit? c
    if d < base then return (← acc) * base + d else none) (some 0)

/-- A part of an address of four bytes, in the base that its beginning shows. -/
def ipv4Part? : List Char → Option Nat
  | [] => none
  | '0' :: 'x' :: rest | '0' :: 'X' :: rest => digitsIn? 16 rest
  | '0' :: c :: rest => digitsIn? 8 (c :: rest)
  | rest => digitsIn? 10 rest

/-- The parts between the points, an empty last one left out. -/
def nameParts (name : List Char) : List (List Char) :=
  let parts := splitChars (· == '.') name
  if parts.getLast? == some [] then parts.dropLast else parts

/-- The last part of a name is a number. -/
def endsInNumber (name : List Char) : Bool :=
  match (nameParts name).getLast? with
  | none => false
  | some last => (!last.isEmpty && last.all Char.isDigit) || (ipv4Part? last).isSome

/-- The parts before the last are one byte each; the last one fills what is left. -/
def ipv4? (name : List Char) : Option Nat := do
  let numbers ← (nameParts name).mapM ipv4Part?
  let last ← numbers.getLast?
  let before := numbers.dropLast
  let whole := Nat.pow 256 (4 - before.length)
  if 3 < before.length || before.any (255 < ·) || whole ≤ last then none
  else return before.foldl (fun acc n => acc * 256 + n) 0 * whole + last

/-! ### Sixteen bytes -/

/-- A byte in decimal, without zeros in front. -/
def decimalByte? (ds : List Char) : Option Nat :=
  if ds.isEmpty || !ds.all Char.isDigit || (1 < ds.length && ds.head? == some '0') then none
  else (digitsIn? 10 ds).filter (· ≤ 255)

/-- One or, for an address of four bytes in its usual form, two pieces of sixteen bits. -/
def ipv6Piece? (isLast : Bool) (cs : List Char) : Option (List Nat) :=
  if cs.contains '.' then
    match isLast, (splitChars (· == '.') cs).mapM decimalByte? with
    | true, some [a, b, c, d] => some [a * 256 + b, c * 256 + d]
    | _, _ => none
  else if cs.isEmpty || 4 < cs.length then none
  else (digitsIn? 16 cs).map fun n => [n]

/-- The pieces between colons; `final` says that nothing comes after them. -/
def ipv6Pieces? (final : Bool) (cs : List Char) : Option (List Nat) :=
  if cs.isEmpty then some []
  else
    let parts := splitChars (· == ':') cs
    let read (i : Nat) (part : List Char) := ipv6Piece? (final && i + 1 == parts.length) part
    (parts.mapIdx read).foldl (fun acc part => do return (← acc) ++ (← part)) (some [])

/-- What stands before and after the first double colon. -/
def splitDoubleColon? : List Char → Option (List Char × List Char)
  | ':' :: ':' :: rest => some ([], rest)
  | c :: rest => (splitDoubleColon? rest).map fun (before, after) => (c :: before, after)
  | [] => none

/-- Eight pieces; a double colon stands for as many zeros as are missing, one at least. -/
def ipv6? (cs : List Char) : Option (List Nat) :=
  match splitDoubleColon? cs with
  | none => (ipv6Pieces? true cs).filter (·.length == 8)
  | some (before, after) => do
    let front ← ipv6Pieces? false before
    let back ← ipv6Pieces? true after
    let missing := 8 - (front.length + back.length)
    if missing == 0 then none else return front ++ List.replicate missing 0 ++ back

/-! ### Names -/

/-- Signs that no name may hold. -/
def forbiddenInNames : List Char :=
  [' ', '#', '%', '/', ':', '<', '>', '?', '@', '[', '\\', ']', '^', '|', '\x7f']

/-- Characters that count as nothing in a name. -/
def isIgnored (c : Char) : Bool :=
  let n := c.toNat
  n == 0xAD || n == 0x200B || n == 0x2060 || n == 0xFEFF || (0xFE00 ≤ n && n ≤ 0xFE0F)

/-- What a character of a name counts as: full-width forms as the usual ones, other full stops
as points. -/
def mappedChar (c : Char) : List Char :=
  let n := c.toNat
  if isIgnored c then []
  else if 0xFF01 ≤ n ∧ n ≤ 0xFF5E then Text.lowerChar (Char.ofNat (n - 0xFEE0))
  else if n == 0x3002 || n == 0xFF0E || n == 0xFF61 then ['.']
  else Text.lowerChar c

/-- Characters that count as a forbidden sign with or without others: accents that stand alone,
which count as spaces, and signs of other widths.  The last two stand for no character. -/
def unfitRanges : List (Nat × Nat) := [
    (0xA8, 0xA8), (0xAF, 0xAF), (0xB4, 0xB4), (0xB8, 0xB8), (0x2D8, 0x2DD), (0x37A, 0x37A),
    (0x384, 0x385), (0x1FBD, 0x1FBD), (0x1FBF, 0x1FC1), (0x1FCD, 0x1FCF), (0x1FDD, 0x1FDF),
    (0x1FED, 0x1FEE), (0x1FFD, 0x1FFE), (0x2017, 0x2017), (0x203E, 0x203E), (0x2047, 0x2049),
    (0x2100, 0x2101), (0x2105, 0x2106), (0x2A74, 0x2A74), (0x309B, 0x309C), (0xFE13, 0xFE13),
    (0xFE16, 0xFE16), (0xFE47, 0xFE4C), (0xFE55, 0xFE56), (0xFE5F, 0xFE5F), (0xFE64, 0xFE65),
    (0xFE68, 0xFE68), (0xFE6A, 0xFE6B), (0xFFE3, 0xFFE3), (0xFFFC, 0xFFFD)]

/-- A character that may stand in a name once it is mapped. -/
def isNameChar (c : Char) : Bool :=
  if c.toNat < 0x80 then 0x20 ≤ c.toNat && !forbiddenInNames.contains c
  else !Text.inRanges Text.unprintableRanges c.toNat && !Text.inRanges unfitRanges c.toNat

/-- The value of a digit of the encoding that brings names into ASCII. -/
def nameDigit? (c : Char) : Option Nat :=
  if 'a' ≤ c ∧ c ≤ 'z' then some (c.toNat - 'a'.toNat)
  else if '0' ≤ c ∧ c ≤ '9' then some (c.toNat - '0'.toNat + 26)
  else none

/-- Reads one number of that encoding: its value and what is left. -/
def nameNumber? (bias : Nat) : (k weight acc : Nat) → List Char → Option (Nat × List Char)
  | _, _, _, [] => none
  | k, weight, acc, c :: rest => do
    let d ← nameDigit? c
    let acc := acc + d * weight
    let threshold := if k ≤ bias then 1 else if bias + 26 ≤ k then 26 else k - bias
    if d < threshold then return (acc, rest)
    else nameNumber? bias (k + 36) (weight * (36 - threshold)) acc rest

/-- Brings a distance down to the range in which the next one is expected. -/
def adapted (delta count : Nat) (first : Bool) : Nat :=
  let delta := if first then delta / 700 else delta / 2
  let rec go (fuel delta k : Nat) : Nat :=
    match fuel with
    | 0 => k
    | fuel + 1 =>
      if 455 < delta then go fuel (delta / 35) (k + 36) else k + 36 * delta / (delta + 38)
  go 32 (delta + delta / count) 0

/-- Puts the characters that the numbers stand for between the basic ones. -/
def insertDecoded (fuel : Nat) (out : List Char) (n i bias : Nat) (cs : List Char) :
    Option (List Char) :=
  match fuel, cs with
  | _, [] => some out
  | 0, _ => none
  | fuel + 1, cs => do
    let (distance, rest) ← nameNumber? bias 36 1 0 cs
    let place := i + distance
    let size := out.length + 1
    let code := n + place / size
    if !code.isValidChar then none
    else
      let spot := place % size
      insertDecoded fuel (out.take spot ++ Char.ofNat code :: out.drop spot) code (spot + 1)
        (adapted distance size (i == 0 && out.all fun c => c.toNat < 0x80)) rest

/-- What a part stands for that was brought into ASCII, without its mark. -/
def decodedPart? (part : List Char) : Option (List Char) :=
  let tail := (part.reverse.takeWhile (· != '-')).reverse
  let basic := (part.take (part.length - tail.length)).dropLast
  insertDecoded (tail.length + 1) basic 128 0 72 tail

/-- What is shown for a part: what it stands for, if it was brought into ASCII. -/
def shownPart (part : List Char) : List Char :=
  match part with
  | 'x' :: 'n' :: '-' :: '-' :: rest => (decodedPart? rest).getD part
  | part => part

/-- A part of a name is well formed: one that was brought into ASCII has to stand for something
that had to be. -/
def isNamePart (part : List Char) : Bool :=
  match part with
  | 'x' :: 'n' :: '-' :: '-' :: rest =>
    match decodedPart? rest with
    | some cs =>
      !cs.isEmpty && cs.any (fun c => 0x80 ≤ c.toNat) && cs.all isNameChar &&
        cs.flatMap mappedChar == cs
    | none => false
  | c :: _ => !(0x80 ≤ c.toNat && Text.inRanges Text.extendingRanges c.toNat)
  | [] => true

/-- The name that a text stands for. -/
def name? (text : List Char) : Option (List Char) := do
  let decoded ← String.fromUTF8? ⟨(percentDecode (text.flatMap String.utf8EncodeChar)).toArray⟩
  let name := decoded.toList.flatMap mappedChar
  let parts := splitChars (· == '.') name
  if name.all isNameChar && parts.all isNamePart && keepDirections (parts.map shownPart) then
    return name
  else none

/-! ### Hosts -/

/-- What stands between brackets, if the text begins with one. -/
def bracketed? : List Char → Option (Except Fault Host)
  | '[' :: rest =>
    some <|
      if rest.getLast? == some ']' then
        match ipv6? rest.dropLast with
        | some pieces => .ok (.ipv6 pieces)
        | none => .error .badIpv6
      else .error .badIpv6
  | _ => none

/-- The host of an address whose scheme knows hosts. -/
def Host.ofText (text : List Char) : Except Fault Host :=
  match bracketed? text with
  | some host => host
  | none =>
    match name? text with
    | none => .error .badName
    | some chars =>
      if chars.isEmpty then .error .emptyHost
      else if endsInNumber chars then
        match ipv4? chars with
        | some address => .ok (.ipv4 address)
        | none => .error .badIpv4
      else .ok (.name chars)

/-- Signs that may not stand where the host is not looked into. -/
def forbiddenOpaque : List Char :=
  [Char.ofNat 0, '\t', '\n', '\r', ' ', '#', '/', ':', '<', '>', '?', '@', '[', '\\', ']', '^', '|']

/-- The host of an address of any other scheme. -/
def Host.ofOpaque (text : List Char) : Except Fault Host :=
  match bracketed? text with
  | some host => host
  | none => if text.any forbiddenOpaque.contains then .error .badCharacter else .ok (.name text)

end HealthBoard.Url
