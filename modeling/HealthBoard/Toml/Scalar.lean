/-
Numbers and texts of TOML.

Digits may be grouped by underscores, each of which has a digit on both sides.  Whole numbers have
64 bits and can be written in four bases; numbers with a fraction are the nearest there are.  A
text stands between quotes of two kinds, of which only the double ones know escapes, and between
three quotes of a kind it may go over several lines.
-/
import HealthBoard.Decimal.Reading
import HealthBoard.Toml.Node

namespace HealthBoard.Toml

open Decimal

/-! ### Numbers -/

/-- The digits without the underscores between them. -/
def ungroup? (isDigit : Char → Bool) : List Char → Option (List Char)
  | [] => none
  | [c] => if isDigit c then some [c] else none
  | c :: '_' :: rest => if isDigit c then (ungroup? isDigit rest).map (c :: ·) else none
  | c :: rest => if isDigit c then (ungroup? isDigit rest).map (c :: ·) else none

/-- The value of a digit in a base up to sixteen. -/
def digitIn? (base : Nat) (c : Char) : Option Nat :=
  let value? :=
    if c.isDigit then some (c.toNat - '0'.toNat)
    else if 'a' ≤ c ∧ c ≤ 'f' then some (c.toNat - 'a'.toNat + 10)
    else if 'A' ≤ c ∧ c ≤ 'F' then some (c.toNat - 'A'.toNat + 10)
    else none
  value?.filter (· < base)

/-- A whole number in the range of 64 bits. -/
def inRange? (n : Int) : Option Int64 :=
  if leastInteger ≤ n ∧ n ≤ greatestInteger then some (Int64.ofInt n) else none

/-- A whole number in a base other than ten, after the mark of the base. -/
def integerIn? (base : Nat) (cs : List Char) : Option Int64 := do
  let ds ← ungroup? (fun c => (digitIn? base c).isSome) cs
  inRange? (ds.foldl (fun n c => base * n + (digitIn? base c).getD 0) 0 : Nat)

/-- A sign or none, and what follows it. -/
def splitSign : List Char → Bool × List Char
  | '-' :: rest => (true, rest)
  | '+' :: rest => (false, rest)
  | rest => (false, rest)

/-- The digits of a whole number in base ten, which has no zero in front. -/
def wholeDigits? (cs : List Char) : Option (List Char) := do
  let ds ← ungroup? Char.isDigit cs
  if 1 < ds.length && ds.head? == some '0' then none else return ds

def integer? : List Char → Option Int64
  | '0' :: 'x' :: rest => integerIn? 16 rest
  | '0' :: 'o' :: rest => integerIn? 8 rest
  | '0' :: 'b' :: rest => integerIn? 2 rest
  | cs => do
    let (negative, cs) := splitSign cs
    let n := digitsValue (← wholeDigits? cs)
    inRange? (if negative then -(n : Int) else n)

/-- A number with a fraction or an exponent or both, or one of the two words. -/
def number? (cs : List Char) : Option Float :=
  let (negative, unsigned) := splitSign cs
  let signed (x : Float) := if negative then -x else x
  if unsigned == "inf".toList then some (signed (1 / 0))
  else if unsigned == "nan".toList then some (signed (0 / 0))
  else
    let isMark (c : Char) := c == 'e' || c == 'E'
    let mantissa := unsigned.takeWhile fun c => !isMark c
    let exponent := (unsigned.dropWhile fun c => !isMark c).drop 1
    let hasExponent := unsigned.any isMark
    let whole := mantissa.takeWhile (· != '.')
    let fraction := (mantissa.dropWhile (· != '.')).drop 1
    let hasFraction := mantissa.contains '.'
    if !hasExponent && !hasFraction then none
    else do
      let whole ← wholeDigits? whole
      let fraction ← if hasFraction then ungroup? Char.isDigit fraction else some []
      let (negativeExponent, ds) := splitSign exponent
      let ds ← if hasExponent then ungroup? Char.isDigit ds else some ['0']
      let e : Int := digitsValue ds
      let e := (if negativeExponent then -e else e) - fraction.length
      let x := signed (nearest (digitsValue (whole ++ fraction)) e)
      if x == 1 / 0 then none else some x

/-! ### Texts -/

/-- A character that may stand in a text as it is; line breaks are another matter. -/
def isTextChar (c : Char) : Bool := c == '\t' || (0x20 ≤ c.toNat && c.toNat != 0x7F)

def isWhite (c : Char) : Bool := c == ' ' || c == '\t'

/-- What a one-letter escape stands for. -/
def escaped? : Char → Option Char
  | 'b' => some '\x08'
  | 't' => some '\t'
  | 'n' => some '\n'
  | 'f' => some '\x0c'
  | 'r' => some '\r'
  | '"' => some '"'
  | '\\' => some '\\'
  | _ => none

/-- The character of a number in hexadecimal, with all digits that it has to have. -/
def charOf? (count : Nat) (cs : List Char) : Option Char := do
  let ds := cs.take count
  guard (ds.length == count)
  let n ← ds.foldlM (fun n d => do return n * 16 + (← digitIn? 16 d)) 0
  if n.isValidChar then some (Char.ofNat n) else none

/-- A text and what follows it. -/
abbrev Taken := List Char × List Char

/-- A character in front of a text. -/
def Taken.push (c : Char) (t : Taken) : Taken := (c :: t.1, t.2)

/-- A fault of a text, seen where the given characters are left. -/
def badText (kind : TextKind) (left : List Char) : Except Fault Taken :=
  .error ⟨left.length, .text kind⟩

/-- A text up to its closing double quote. -/
def basicText : List Char → Except Fault Taken
  | '"' :: rest => .ok ([], rest)
  | '\\' :: 'u' :: a :: b :: c :: d :: rest =>
    match charOf? 4 [a, b, c, d] with
    | some char => (basicText rest).map (Taken.push char)
    | none => .error ⟨rest.length + 4, .hexEscape 4⟩
  | '\\' :: 'U' :: a :: b :: c :: d :: e :: f :: g :: h :: rest =>
    match charOf? 8 [a, b, c, d, e, f, g, h] with
    | some char => (basicText rest).map (Taken.push char)
    | none => .error ⟨rest.length + 8, .hexEscape 8⟩
  | '\\' :: c :: rest =>
    match escaped? c with
    | some char => (basicText rest).map (Taken.push char)
    | none =>
      if c == 'u' then .error ⟨rest.length, .hexEscape 4⟩
      else if c == 'U' then .error ⟨rest.length, .hexEscape 8⟩
      else .error ⟨rest.length + 1, .escape⟩
  | c :: rest =>
    if isTextChar c && c != '\\' then (basicText rest).map (Taken.push c)
    else badText .basic (c :: rest)
  | [] => badText .basic []

/-- A text up to its closing single quote. -/
def literalText : List Char → Except Fault Taken
  | '\'' :: rest => .ok ([], rest)
  | c :: rest =>
    if isTextChar c then (literalText rest).map (Taken.push c) else badText .literal (c :: rest)
  | [] => badText .literal []

/-- One or two quotes before the closing three belong to the text. -/
def closing (quote : Char) : List Char → Taken
  | a :: b :: rest =>
    if a == quote && b == quote then ([a, b], rest)
    else if a == quote then ([a], b :: rest) else ([], a :: b :: rest)
  | [a] => if a == quote then ([a], []) else ([], [a])
  | [] => ([], [])

/-- A backslash here joins lines: nothing but white space is left of its own. -/
def joinsLines (rest : List Char) : Bool :=
  match rest.dropWhile isWhite with
  | '\n' :: _ | '\r' :: '\n' :: _ => true
  | _ => false

/-- A text up to its three closing double quotes; `joining` while lines are being joined. -/
def basicLines : (joining : Bool) → List Char → Except Fault Taken
  | _, '"' :: '"' :: '"' :: rest => .ok (closing '"' rest)
  | joining, '\r' :: '\n' :: rest =>
    if joining then basicLines true rest else (basicLines false rest).map (Taken.push '\n')
  | joining, '\n' :: rest =>
    if joining then basicLines true rest else (basicLines false rest).map (Taken.push '\n')
  | _, '\\' :: 'u' :: a :: b :: c :: d :: rest =>
    match charOf? 4 [a, b, c, d] with
    | some char => (basicLines false rest).map (Taken.push char)
    | none => .error ⟨rest.length + 4, .hexEscape 4⟩
  | _, '\\' :: 'U' :: a :: b :: c :: d :: e :: f :: g :: h :: rest =>
    match charOf? 8 [a, b, c, d, e, f, g, h] with
    | some char => (basicLines false rest).map (Taken.push char)
    | none => .error ⟨rest.length + 8, .hexEscape 8⟩
  | _, '\\' :: c :: rest =>
    if joinsLines (c :: rest) then basicLines true (c :: rest)
    else match escaped? c with
      | some char => (basicLines false rest).map (Taken.push char)
      | none => .error ⟨rest.length + 1, .escape⟩
  | joining, c :: rest =>
    if joining && isWhite c then basicLines true rest
    else if isTextChar c && c != '\\' then (basicLines false rest).map (Taken.push c)
    else badText .basicLines (c :: rest)
  | _, [] => badText .basicLines []

/-- A text up to its three closing single quotes. -/
def literalLines : List Char → Except Fault Taken
  | '\'' :: '\'' :: '\'' :: rest => .ok (closing '\'' rest)
  | '\r' :: '\n' :: rest => (literalLines rest).map (Taken.push '\n')
  | c :: rest =>
    if isTextChar c || c == '\n' then (literalLines rest).map (Taken.push c)
    else badText .literalLines (c :: rest)
  | [] => badText .literalLines []

/-- What follows a line break that comes right after the opening quotes. -/
def dropBreak : List Char → List Char
  | '\n' :: rest => rest
  | '\r' :: '\n' :: rest => rest
  | rest => rest

/-- A text with its quotes. -/
def quotedText : List Char → Except Fault Taken
  | '"' :: '"' :: '"' :: rest => basicLines false (dropBreak rest)
  | '\'' :: '\'' :: '\'' :: rest => literalLines (dropBreak rest)
  | '"' :: rest => basicText rest
  | '\'' :: rest => literalText rest
  | cs => badText .basic cs

end HealthBoard.Toml
