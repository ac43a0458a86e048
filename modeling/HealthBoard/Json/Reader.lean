/-
Reading JSON from bytes, one token at a time.

A reader is a function on what is left of the text, and says what is left after it.  Where a
complaint is placed matters as much as its wording, so there are two ways to complain: at the
place reached so far, and at the byte that comes next, which then counts as read.

The bytes need not be valid text as a whole.  Only a string that is kept has to be, and it is
looked at after its closing quote; a string that is skipped may hold anything.
-/
import HealthBoard.Json.Complaint
import HealthBoard.Json.Value

namespace HealthBoard.Json

/-- A step of reading: it moves along the bytes, or complains. -/
abbrev Reader := EStateM Complaint (List UInt8)

namespace Reader

/-- Complains at the place reached. -/
def fail {α : Type} (fault : SyntaxFault) : Reader α := fun rest =>
  .error ⟨.grammar fault, rest.length, []⟩ rest

/-- Complains at the next byte. -/
def failNext {α : Type} (fault : SyntaxFault) : Reader α := fun rest =>
  .error ⟨.grammar fault, rest.length - 1, []⟩ rest

/-- The next byte, still unread. -/
def peek : Reader (Option UInt8) := fun rest => .ok rest.head? rest

/-- Passes over the next byte. -/
def skip : Reader Unit := fun rest => .ok () rest.tail

/-- The next byte, read. -/
def next : Reader (Option UInt8) := fun rest => .ok rest.head? rest.tail

/-- The four bytes that may stand between tokens. -/
def isSpace (b : UInt8) : Bool := b == 0x20 || b == 0x0A || b == 0x09 || b == 0x0D

def skipSpace : Reader Unit := fun rest => .ok () (rest.dropWhile isSpace)

/-- The first byte of the next token, still unread. -/
def peekToken : Reader (Option UInt8) := do
  skipSpace
  peek

/-- Complaints of the reader are about the part that the step leads to. -/
def within {α : Type} (step : Step) (r : Reader α) : Reader α := fun rest =>
  match r rest with
  | .ok a rest => .ok a rest
  | .error c rest => .error { c with path := step :: c.path } rest

/-! ### Words -/

/-- The rest of `null`, `true` or `false`. -/
def word : List UInt8 → Reader Unit
  | [] => pure ()
  | b :: more => do
    match ← next with
    | none => fail .endInValue
    | some c => if c == b then word more else fail .expectedIdent

def ull : List UInt8 := [0x75, 0x6C, 0x6C]
def rue : List UInt8 := [0x72, 0x75, 0x65]
def alse : List UInt8 := [0x61, 0x6C, 0x73, 0x65]

/-! ### Strings

A string is read one byte at a time by a machine with five states.  A character outside the first
plane is written as two escapes, a leading and a trailing surrogate, and a surrogate on its own is
no character; so after a leading one the machine insists on a second escape. -/

/-- Where the machine stands inside a string. -/
inductive StringState where
  | plain
  /-- After a backslash. -/
  | escaped
  /-- Inside `\uXXXX`: the digits so far, and a leading surrogate that waits for its partner. -/
  | hex (digits : List UInt8) (lead : Option Nat)
  /-- After a leading surrogate: a backslash has to come. -/
  | afterLead (lead : Nat)
  /-- After that backslash: a `u` has to come. -/
  | afterLeadSlash (lead : Nat)

/-- The value of a hexadecimal digit. -/
def hexValue? (b : UInt8) : Option Nat :=
  let n := b.toNat
  if 0x30 ≤ n ∧ n ≤ 0x39 then some (n - 0x30)
  else if 0x41 ≤ n ∧ n ≤ 0x46 then some (n - 0x37)
  else if 0x61 ≤ n ∧ n ≤ 0x66 then some (n - 0x57)
  else none

/-- The value of hexadecimal digits, the greatest first. -/
def hexNumber? (bs : List UInt8) : Option Nat :=
  bs.foldl (fun acc b => do return (← acc) * 16 + (← hexValue? b)) (some 0)

/-- What a one-letter escape stands for. -/
def simpleEscape? (b : UInt8) : Option UInt8 :=
  if b == 0x22 || b == 0x5C || b == 0x2F then some b
  else if b == 0x62 then some 0x08
  else if b == 0x66 then some 0x0C
  else if b == 0x6E then some 0x0A
  else if b == 0x72 then some 0x0D
  else if b == 0x74 then some 0x09
  else none

/-- What a finished hexadecimal escape does. -/
def hexStep (value : Nat) : Option Nat → Except SyntaxFault (StringState × List UInt8)
  | none =>
    if 0xDC00 ≤ value ∧ value ≤ 0xDFFF then .error .loneSurrogate
    else if 0xD800 ≤ value ∧ value ≤ 0xDBFF then .ok (.afterLead value, [])
    else .ok (.plain, String.utf8EncodeChar (Char.ofNat value))
  | some lead =>
    if 0xDC00 ≤ value ∧ value ≤ 0xDFFF then
      let code := 0x10000 + (lead - 0xD800) * 0x400 + (value - 0xDC00)
      .ok (.plain, String.utf8EncodeChar (Char.ofNat code))
    else .error .loneSurrogate

/-- One byte of a string, the closing quote apart: the next state and the bytes it stands for. -/
def stringStep (state : StringState) (b : UInt8) :
    Except SyntaxFault (StringState × List UInt8) :=
  match state with
  | .plain =>
    if b == 0x5C then .ok (.escaped, [])
    else if b < 0x20 then .error .controlCharacter
    else .ok (.plain, [b])
  | .escaped =>
    if b == 0x75 then .ok (.hex [] none, [])
    else match simpleEscape? b with
      | some c => .ok (.plain, [c])
      | none => .error .badEscape
  | .hex digits lead =>
    let digits := digits ++ [b]
    if digits.length < 4 then .ok (.hex digits lead, [])
    else match hexNumber? digits with
      | some value => hexStep value lead
      | none => .error .badEscape
  | .afterLead lead =>
    if b == 0x5C then .ok (.afterLeadSlash lead, []) else .error .cutHexEscape
  | .afterLeadSlash lead =>
    if b == 0x75 then .ok (.hex [] (some lead), []) else .error .cutHexEscape

/-- The quote ends a string only where the machine stands between characters. -/
def closesString (state : StringState) (b : UInt8) : Bool :=
  match state with
  | .plain => b == 0x22
  | _ => false

/-- The bytes of a string up to its closing quote; `taken` holds those so far, last first. -/
def stringBytes (taken : List UInt8) (state : StringState) : Reader (List UInt8)
  | [] => fail .endInString []
  | b :: rest =>
    if closesString state b then .ok taken.reverse rest
    else match stringStep state b with
      | .error fault => fail fault rest
      | .ok (state, out) => stringBytes (out.reverse ++ taken) state rest

/-- A string after its opening quote. -/
def string : Reader String := do
  let bytes ← stringBytes [] .plain
  match String.fromUTF8? ⟨bytes.toArray⟩ with
  | some s => pure s
  | none => fail .badCodePoint

/-- Passes over a string after its opening quote.  Escapes are checked, characters are not. -/
def skipString : Reader Unit
  | [] => fail .endInString []
  | b :: rest =>
    if b == 0x22 then .ok () rest
    else if b == 0x5C then
      match rest with
      | [] => fail .endInString []
      | e :: rest =>
        if e == 0x75 then
          match rest with
          | h1 :: h2 :: h3 :: h4 :: rest =>
            if (hexNumber? [h1, h2, h3, h4]).isSome then skipString rest else fail .badEscape rest
          | _ => fail .endInString []
        else if (simpleEscape? e).isSome then skipString rest
        else fail .badEscape rest
    else if b < 0x20 then fail .controlCharacter (b :: rest)
    else skipString rest

/-! ### Numbers

A number without fraction and exponent is whole, if 64 bits hold it.  Any other is its leading
digits, as many as 64 bits hold, scaled by a power of ten: the digits are rounded first and the
scaled number again, so that a text of seventeen digits can miss the nearest number by one. -/

def isDigit (b : UInt8) : Bool := 0x30 ≤ b && b ≤ 0x39

def digitValue (b : UInt8) : Nat := b.toNat - 0x30

/-- As many digits as there are. -/
def digits : Reader (List Nat) := fun rest =>
  .ok ((rest.takeWhile isDigit).map digitValue) (rest.dropWhile isDigit)

/-- The greatest significand. -/
def greatestSignificand : Nat := 18446744073709551615

/-- The digits before the point: as many as fit, and how many were left out. -/
def wholeDigits (ds : List Nat) : Nat × Nat :=
  ds.foldl (fun (value, dropped) d =>
    if dropped == 0 && 10 * value + d ≤ greatestSignificand then (10 * value + d, 0)
    else (value, dropped + 1)) (0, 0)

/-- The digits after the point: as many as fit, and how many those were. -/
def fractionDigits (value : Nat) : List Nat → Nat × Nat
  | [] => (value, 0)
  | d :: ds =>
    if 10 * value + d ≤ greatestSignificand then
      let (value, taken) := fractionDigits (10 * value + d) ds
      (value, taken + 1)
    else (value, 0)

/-- A number with its sign. -/
def signed (negative : Bool) (x : Float) : Float := if negative then -x else x

/-- `f * 10 ^ e`, unless that is out of range. -/
def scaleTen (f : Float) (e : Int) : Option Float :=
  if e < -308 then
    if f == 0 then some f else scaleTen (f / 1e308) (e + 308)
  else if e < 0 then some (f / Float.ofScientific 1 false e.natAbs)
  else if e ≤ 308 then
    let scaled := f * Float.ofScientific 1 false e.natAbs
    if scaled.isInf then none else some scaled
  else if f == 0 then some f
  else none
termination_by e.natAbs
decreasing_by omega

/-- A significand and a power of ten as a number. -/
def scaled (negative : Bool) (significand : Nat) (exponent : Int) : Reader Json :=
  match scaleTen significand.toUInt64.toFloat exponent with
  | some x => pure (.float (signed negative x))
  | none => fail .numberOutOfRange

/-- The greatest exponent that is read as a number. -/
def greatestExponent : Nat := 2147483647

/--
The digits of an exponent after the first.  An exponent past all bounds makes zero of a number, or
is complained about at the digit that made it so.
-/
def exponentDigits (negative negativeExponent : Bool) (significand : Nat) (start : Int) :
    Nat → Reader Json
  | e, [] => atEnd e []
  | e, b :: rest =>
    if isDigit b then
      if greatestExponent < 10 * e + digitValue b then
        if significand != 0 && !negativeExponent then fail .numberOutOfRange rest
        else .ok (.float (signed negative 0)) (rest.dropWhile isDigit)
      else exponentDigits negative negativeExponent significand start (10 * e + digitValue b) rest
    else atEnd e (b :: rest)
where
  atEnd (e : Nat) : Reader Json :=
    scaled negative significand (if negativeExponent then start - e else start + e)

/-- The exponent after its `e`. -/
def exponent (negative : Bool) (significand : Nat) (start : Int) : Reader Json := do
  let sign ← peek
  let negativeExponent := sign == some 0x2D
  if negativeExponent || sign == some 0x2B then skip
  match ← next with
  | none => fail .endInValue
  | some b =>
    if isDigit b then exponentDigits negative negativeExponent significand start (digitValue b)
    else fail .badNumber

/-- The fraction after its point. -/
def fraction (negative : Bool) (significand : Nat) (dropped : Nat) : Reader Json := do
  let ds ← digits
  if ds.isEmpty then
    match ← peek with
    | some _ => failNext .badNumber
    | none => failNext .endInValue
  else
    let (significand, taken) := fractionDigits significand ds
    let start : Int := (dropped : Int) - taken
    match ← peek with
    | some 0x65 | some 0x45 => do
      skip
      exponent negative significand start
    | _ => scaled negative significand start

/-- A whole number of 64 bits; below them, and for a zero with a sign, it is no whole number. -/
def wholeNumber (negative : Bool) (n : Nat) : Json :=
  if !negative then .int n
  else if n == 0 || -leastInteger < n then .float (-n.toUInt64.toFloat)
  else .int (-(n : Int))

/-- What follows the digits before the point. -/
def numberTail (negative : Bool) (significand : Nat) (dropped : Nat) : Reader Json := do
  match ← peek with
  | some 0x2E => do
    skip
    fraction negative significand dropped
  | some 0x65 | some 0x45 => do
    skip
    exponent negative significand dropped
  | _ =>
    if dropped == 0 then pure (wholeNumber negative significand)
    else scaled negative significand dropped

/-- A number after its sign.  A leading zero stands alone. -/
def number (negative : Bool) : Reader Json := do
  match ← next with
  | none => fail .endInValue
  | some b =>
    if b == 0x30 then
      match ← peek with
      | some c => if isDigit c then failNext .badNumber else numberTail negative 0 0
      | none => numberTail negative 0 0
    else if isDigit b then
      let ds ← digits
      let (significand, dropped) := wholeDigits (digitValue b :: ds)
      numberTail negative significand dropped
    else fail .badNumber

/-! ### Lists and objects -/

/-- After `[` or an item: whether another item follows. -/
def hasItem (first : Bool) : Reader Bool := do
  match ← peekToken with
  | none => failNext .endInList
  | some b =>
    if b == 0x5D then pure false
    else if first then pure true
    else if b == 0x2C then do
      skip
      match ← peekToken with
      | some 0x5D => failNext .trailingComma
      | some _ => pure true
      | none => failNext .endInValue
    else failNext .expectedCommaOrBracket

/-- After `{` or a member: whether another member follows; its quote is still unread. -/
def hasMember (first : Bool) : Reader Bool := do
  match ← peekToken with
  | none => failNext .endInObject
  | some b =>
    if b == 0x7D then pure false
    else if first then
      if b == 0x22 then pure true else failNext .keyNotString
    else if b == 0x2C then do
      skip
      match ← peekToken with
      | some 0x22 => pure true
      | some 0x7D => failNext .trailingComma
      | some _ => failNext .keyNotString
      | none => failNext .endInValue
    else failNext .expectedCommaOrBrace

/-- The closing bracket of a list whose reader wants no more items. -/
def endList : Reader Unit := do
  match ← peekToken with
  | some 0x5D => skip
  | some 0x2C => do
    skip
    match ← peekToken with
    | some 0x5D => failNext .trailingComma
    | _ => failNext .trailingCharacters
  | some _ => failNext .trailingCharacters
  | none => failNext .endInList

/-- The closing brace of an object whose reader wants no more members. -/
def endObject : Reader Unit := do
  match ← peekToken with
  | some 0x7D => skip
  | some 0x2C => failNext .trailingComma
  | some _ => failNext .trailingCharacters
  | none => failNext .endInObject

/-- The colon after a member's name. -/
def colon : Reader Unit := do
  match ← peekToken with
  | some 0x3A => skip
  | some _ => failNext .expectedColon
  | none => failNext .endInObject

/--
All further items of a list.  Every item takes at least a byte, so the bytes left when the list
began are fuel enough.
-/
def itemsFrom {α : Type} (item : Nat → Reader α) : (fuel : Nat) → (index : Nat) → Reader (List α)
  | 0, _ => fail .endInList
  | fuel + 1, index => do
    if ← hasItem (index == 0) then
      let a ← item index
      let more ← itemsFrom item fuel (index + 1)
      pure (a :: more)
    else pure []

/-- The items of a list after its bracket, and the closing bracket. -/
def items {α : Type} (item : Nat → Reader α) : Reader (List α) := fun rest =>
  (do
    let all ← itemsFrom item (rest.length + 1) 0
    endList
    pure all : Reader (List α)) rest

/--
Folds over the members of an object; the step stands after a name and reads the value.  A step
may also refuse, and then the members after it are not looked at.
-/
def foldMembersFrom {ε σ : Type} (step : String → σ → Reader (Except ε σ)) :
    (fuel : Nat) → (first : Bool) → σ → Reader (Except ε σ)
  | 0, _, _ => fail .endInObject
  | fuel + 1, first, state => do
    if ← hasMember first then
      skip
      let name ← string
      match ← step name state with
      | .ok state => foldMembersFrom step fuel false state
      | .error refusal => pure (.error refusal)
    else pure (.ok state)

/-- Folds over the members of an object after its brace, up to the closing one. -/
def foldMembers {ε σ : Type} (step : String → σ → Reader (Except ε σ)) (start : σ) :
    Reader (Except ε σ) := fun rest =>
  foldMembersFrom step (rest.length + 1) true start rest

/--
Closes a list or an object whose contents may have been refused.  A refusal is placed after the
closing bracket if that follows, and else where the search for it stopped.
-/
def closing {α : Type} (close : Reader Unit) (body : Reader (Except Mismatch α)) : Reader α :=
  fun rest =>
    match body rest with
    | .error c rest => .error c rest
    | .ok (.ok a) rest => (do close; pure a : Reader α) rest
    | .ok (.error m) rest =>
      let after := match close rest with
        | .ok _ after => after
        | .error _ after => after
      .error ⟨.form m, after.length, []⟩ after

/-! ### Values -/

/-- Lists and objects may be nested less deeply than this. -/
def greatestDepth : Nat := 128

/-- Checks that another list or object may be opened inside `depth` more. -/
def descend (depth : Nat) : Reader Unit :=
  if depth == 0 then failNext .tooDeep else pure ()

/-- A value of any form. -/
def value : (depth : Nat) → Reader Json
  | 0 => failNext .tooDeep
  | depth + 1 => do
    match ← peekToken with
    | none => failNext .endInValue
    | some b =>
      if b == 0x6E then do skip; word ull; pure .null
      else if b == 0x74 then do skip; word rue; pure (.bool true)
      else if b == 0x66 then do skip; word alse; pure (.bool false)
      else if b == 0x2D then do skip; number true
      else if isDigit b then number false
      else if b == 0x22 then do skip; return .str (← string)
      else if b == 0x5B then do
        descend depth
        skip
        return .arr (← items fun _ => value depth)
      else if b == 0x7B then do
        descend depth
        skip
        return .obj (← closing endObject (foldMembers (fun name members => do
          colon
          return .ok (insertMember name (← value depth) members)) []))
      else failNext .expectedValue

/-- Nothing but space is left. -/
def finish : Reader Unit := do
  match ← peekToken with
  | some _ => failNext .trailingCharacters
  | none => pure ()

/-- Runs a reader over a whole text. -/
def run {α : Type} (r : Reader α) (text : List UInt8) : Except Complaint α :=
  match (do let a ← r; finish; pure a : Reader α) text with
  | .ok a _ => .ok a
  | .error c _ => .error c

end Reader

/-- The value that a text stands for. -/
def parse (text : List UInt8) : Except Complaint Json :=
  Reader.run (Reader.value Reader.greatestDepth) text

end HealthBoard.Json
