/-
Passing over a value that nobody asked for.

A member of an unknown name is skipped, however deeply it is nested, and only its brackets,
strings and numbers are checked.  So what has been opened is kept in a list and not on the
reader's own way down, and the limit on nesting does not apply.
-/
import HealthBoard.Json.Reader

namespace HealthBoard.Json.Reader

/-- What has been opened and not closed. -/
inductive Bracket where
  | list
  | object

/-- The digits of a power of ten, after its `e`. -/
def skipExponent : Reader Unit := do
  let sign ← peek
  if sign == some 0x2B || sign == some 0x2D then skip
  match ← next with
  | some b => if isDigit b then let _ ← digits else fail .badNumber
  | none => fail .badNumber

/-- What may follow the digits of a number: nothing, or an exponent. -/
def skipExponentTail : Reader Unit := do
  match ← peek with
  | some 0x65 | some 0x45 => do
    skip
    skipExponent
  | _ => pure ()

/-- The digits after the point. -/
def skipFraction : Reader Unit := do
  if (← digits).isEmpty then failNext .badNumber else skipExponentTail

/-- What may follow the digits before the point. -/
def skipNumberTail : Reader Unit := do
  match ← peek with
  | some 0x2E => do
    skip
    skipFraction
  | _ => skipExponentTail

/-- A number after its sign. -/
def skipNumber : Reader Unit := do
  match ← next with
  | none => fail .badNumber
  | some b =>
    if b == 0x30 then
      match ← peek with
      | some c => if isDigit c then failNext .badNumber else skipNumberTail
      | none => pure ()
    else if isDigit b then do
      let _ ← digits
      skipNumberTail
    else fail .badNumber

/-- The name of a member and its colon. -/
def skipName : Reader Unit := do
  match ← peekToken with
  | some 0x22 => do
    skip
    skipString
    colon
  | some _ => failNext .keyNotString
  | none => failNext .endInObject

/--
What follows a value inside the brackets that are open: closes as many as close here, and gives
those inside which another value has to follow, if there is one.
-/
def afterValue : List Bracket → Reader (Option (List Bracket))
  | [] => pure none
  | .list :: outer => do
    match ← peekToken with
    | some 0x2C => do
      skip
      pure (some (.list :: outer))
    | some 0x5D => do
      skip
      afterValue outer
    | some _ => failNext .expectedCommaOrBracket
    | none => failNext .endInList
  | .object :: outer => do
    match ← peekToken with
    | some 0x2C => do
      skip
      skipName
      pure (some (.object :: outer))
    | some 0x7D => do
      skip
      afterValue outer
    | some _ => failNext .expectedCommaOrBrace
    | none => failNext .endInObject

/-- One token where a value is due: a whole scalar, or an opening bracket. -/
def valueToken (opened : List Bracket) : Reader (Option (List Bracket)) := do
  match ← peekToken with
  | none => failNext .endInValue
  | some b =>
    if b == 0x6E then do skip; word ull; afterValue opened
    else if b == 0x74 then do skip; word rue; afterValue opened
    else if b == 0x66 then do skip; word alse; afterValue opened
    else if b == 0x2D then do skip; skipNumber; afterValue opened
    else if isDigit b then do skipNumber; afterValue opened
    else if b == 0x22 then do skip; skipString; afterValue opened
    else if b == 0x5B then do
      skip
      match ← peekToken with
      | some 0x5D => do
        skip
        afterValue opened
      | some _ => pure (some (.list :: opened))
      | none => failNext .endInList
    else if b == 0x7B then do
      skip
      match ← peekToken with
      | some 0x7D => do
        skip
        afterValue opened
      | some _ => do
        skipName
        pure (some (.object :: opened))
      | none => failNext .endInObject
    else failNext .expectedValue

/-- Token by token until nothing is open. -/
def skipFrom : (fuel : Nat) → List Bracket → Reader Unit
  | 0, _ => fail .endInValue
  | fuel + 1, opened => do
    match ← valueToken opened with
    | some opened => skipFrom fuel opened
    | none => pure ()

/-- Passes over a value.  Every token takes at least a byte, so the bytes left are fuel enough. -/
def skipValue : Reader Unit := fun rest => skipFrom (rest.length + 1) [] rest

end HealthBoard.Json.Reader
