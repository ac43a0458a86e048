/-
Reading TOML.

A text is a sequence of lines.  A line is blank, or a pair, or a header, and may end in a comment.
Values may hold values, up to a depth that no sensible text reaches.  Reading stops at the first
thing that cannot be read, and what is complained about is what would have had to follow there.
-/
import HealthBoard.Toml.Moment
import HealthBoard.Toml.Scalar

namespace HealthBoard.Toml

/-- Something that was read, and what follows it. -/
abbrev Followed (α : Type) := α × List Char

/-- A way of reading something from the beginning of a text. -/
abbrev Reads (α : Type) := List Char → Except Fault (Followed α)

/-- A fault, seen where the given characters are left. -/
def fail {α : Type} (left : List Char) (cause : Cause) : Except Fault α :=
  .error ⟨left.length, cause⟩

/-! ### Between the words -/

def skipWhite (cs : List Char) : List Char := cs.dropWhile isWhite

/-- What follows a line break. -/
def lineBreak? : List Char → Option (List Char)
  | '\n' :: rest => some rest
  | '\r' :: '\n' :: rest => some rest
  | _ => none

/-- What follows a comment, if there is one; it ends before a line break. -/
def skipComment (cs : List Char) : List Char :=
  match cs with
  | '#' :: rest => rest.dropWhile isTextChar
  | cs => cs

/-- White space, line breaks and comments, as they may stand between the items of an array. -/
def skipLines : (fuel : Nat) → List Char → List Char
  | 0, cs => cs
  | fuel + 1, cs =>
    let cs := skipComment (skipWhite cs)
    match lineBreak? cs with
    | some rest => skipLines fuel rest
    | none => cs

/-- What is left of a line, its break included; the end of the text ends a line as well. -/
def endLine (cause : Cause) (cs : List Char) : Except Fault (List Char) :=
  match skipComment (skipWhite cs) with
  | [] => .ok []
  | cs =>
    match lineBreak? cs with
    | some rest => .ok rest
    | none => fail cs cause

/-! ### Keys -/

def isBareKeyChar (c : Char) : Bool := c.isAlphanum || c == '_' || c == '-'

/-- One part of a key. -/
def keyPart (cs : List Char) : Except Fault (Followed String) :=
  let text (t : Taken) := (String.ofList t.1, t.2)
  match cs with
  | '"' :: rest => (basicText rest).map text
  | '\'' :: rest => (literalText rest).map text
  | cs =>
    if (cs.takeWhile isBareKeyChar).isEmpty then fail cs .key
    else .ok (text (cs.takeWhile isBareKeyChar, cs.dropWhile isBareKeyChar))

/-- A key: its parts between points.  A point that no part follows does not belong to the key. -/
def key : (fuel : Nat) → Reads (List String)
  | 0, cs => fail cs .key
  | fuel + 1, cs => do
    let (part, rest) ← keyPart (skipWhite cs)
    match skipWhite rest with
    | '.' :: more =>
      match key fuel more with
      | .ok (parts, rest) => return (part :: parts, rest)
      | .error ⟨_, .key⟩ => return ([part], '.' :: more)
      | .error fault => throw fault
    | rest => return ([part], rest)

/-! ### Values -/

/-- A character of a number. -/
def isNumberChar (c : Char) : Bool := c.isAlphanum || c == '_' || c == '+' || c == '-' || c == '.'

/-- A number in the given digits. -/
def numeral? (word : List Char) : Option Node :=
  match integer? word, number? word with
  | some n, _ => some (.integer n)
  | none, some x => some (.number x)
  | none, none => none

/-- The longest number at the beginning of a word, not longer than the given length. -/
def longestNumeral? (word : List Char) : Nat → Option (Node × Nat)
  | 0 => none
  | n + 1 =>
    match numeral? (word.take (n + 1)) with
    | some node => some (node, n + 1)
    | none => longestNumeral? word n

/-- A number or a moment. -/
def figure (cs : List Char) : Except Fault (Followed Node) :=
  match moment? cs with
  | some (text, rest) => .ok (.moment (String.ofList text), rest)
  | none =>
    let word := cs.takeWhile isNumberChar
    match longestNumeral? word word.length with
    | some (node, length) => .ok (node, cs.drop length)
    | none => fail cs .wholeNumber

/-- A value without parts. -/
def scalar (cs : List Char) : Except Fault (Followed Node) :=
  match cs with
  | '"' :: _ | '\'' :: _ =>
    (quotedText cs).map fun (text, rest) => (.text (String.ofList text), rest)
  | 't' :: 'r' :: 'u' :: 'e' :: rest => .ok (.boolean true, rest)
  | 'f' :: 'a' :: 'l' :: 's' :: 'e' :: rest => .ok (.boolean false, rest)
  | 'i' :: 'n' :: 'f' :: rest => .ok (.number (1 / 0), rest)
  | 'n' :: 'a' :: 'n' :: rest => .ok (.number (0 / 0), rest)
  | 't' :: _ | 'f' :: _ => fail cs .word
  | '_' :: _ => fail cs (.leadingDigit "integer")
  | '.' :: _ => fail cs (.leadingDigit "floating-point number")
  | c :: _ => if c.isDigit || c == '+' || c == '-' then figure cs else fail cs .value
  | [] => fail cs .unknown

/-- Values inside of values, at most so deep. -/
def greatestDepth : Nat := 80

/--
The items of an array, after its opening bracket.  Where an item cannot even begin, the array
would have had to end.
-/
def items (value : Reads Node) : (fuel : Nat) → Reads (List Node)
  | 0, cs => fail cs .array
  | fuel + 1, cs =>
    match skipLines cs.length cs with
    | ']' :: rest => .ok ([], rest)
    | cs =>
      match value cs with
      | .ok (item, rest) =>
        match skipLines rest.length rest with
        | ',' :: rest => (items value fuel rest).map fun (items, rest) => (item :: items, rest)
        | ']' :: rest => .ok ([item], rest)
        | rest => fail rest .array
      | .error fault =>
        if fault.left == cs.length && fault.cause ≠ .word then fail cs .array else .error fault

/-- A key and its value. -/
def pair (value : Reads Node) (cs : List Char) :
    Except Fault (Followed (List String × Node)) := do
  let (key, rest) ← key cs.length cs
  match rest with
  | '=' :: rest => do
    let (value, rest) ← value (skipWhite rest)
    return ((key, value), rest)
  | rest => fail rest .afterKey

/--
The pairs of a table in braces, after a brace or, with `again` what begins at it, a comma.  Where a
pair cannot even begin, the table would have had to end.
-/
def pairs (value : Reads Node) :
    (fuel : Nat) → (again : Option (List Char)) → Reads (List (List String × Node))
  | 0, _, cs => fail cs .closedTable
  | fuel + 1, again, cs =>
    match pair value cs with
    | .ok (pair, rest) =>
      match skipWhite rest with
      | ',' :: more => (pairs value fuel (some (',' :: more)) more).map fun (pairs, rest) =>
        (pair :: pairs, rest)
      | '\x7d' :: rest => .ok ([pair], rest)
      | rest => fail rest .closedTable
    | .error fault =>
      if fault.cause = .key then fail (again.getD (skipWhite cs)) .closedTable else .error fault

/-- A value, with at most so many values around the innermost ones. -/
def value : (depth : Nat) → Reads Node
  | depth, '[' :: rest =>
    match depth with
    | 0 => fail ('[' :: rest) .tooDeep
    | depth + 1 => (items (value depth) (rest.length + 1) rest).map fun (items, rest) =>
      (.array items, rest)
  | depth, '\x7b' :: rest =>
    match depth with
    | 0 => fail ('\x7b' :: rest) .tooDeep
    | depth + 1 =>
      match skipWhite rest with
      | '\x7d' :: rest => .ok (.closed [], rest)
      | inner => do
        let (pairs, after) ← pairs (value depth) (inner.length + 1) none inner
        match closedMembers pairs with
        | .ok members => return (.closed members, after)
        | .error clash => fail rest (.clash clash)
  | _, cs => scalar cs

/-! ### Lines -/

/-- The key of a header, up to what closes it. -/
def headerKey (closing : List Char) (cs : List Char) : Except Fault (Followed (List String)) := do
  let (key, rest) ← key cs.length cs
  if closing.isPrefixOf rest then return (key, rest.drop closing.length)
  else fail rest (.header (String.ofList closing))

/-- What a line says, and what follows it; the line is not blank. -/
def saying (cs : List Char) : Except Fault (Followed Line) :=
  match cs with
  | '[' :: '[' :: rest => do
    let (key, rest) ← headerKey [']', ']'] rest
    return (.rowHeader key, ← endLine .afterHeader rest)
  | '[' :: rest => do
    let (key, rest) ← headerKey [']'] rest
    return (.header key, ← endLine .afterHeader rest)
  | cs => do
    let ((key, value), rest) ← pair (value greatestDepth) cs
    return (.pair key value, ← endLine .afterValue rest)

/-- A clash as the line complains about it that causes it. -/
def Line.complaint : Line → Clash → Cause
  | .pair _ _, clash => .clash clash
  | .header _, clash | .rowHeader _, clash => .headerClash clash

/-- Reads lines up to the end. -/
def lines : (fuel : Nat) → Document → List Char → Except Fault Document
  | 0, d, _ => .ok d
  | fuel + 1, d, cs =>
    match skipWhite cs with
    | [] => .ok d
    | '#' :: rest => do lines fuel d (← endLine .unknown ('#' :: rest))
    | '\r' :: _ | '\n' :: _ => do lines fuel d (← endLine .unknown cs)
    | cs => do
      let (line, rest) ← saying cs
      match d.add line with
      | .ok d => lines fuel d rest
      | .error clash => fail cs (line.complaint clash)

/-- Reads a text. -/
def parse (text : List Char) : Except Fault Members :=
  (lines (text.length + 1) {} text).map (·.members)

end HealthBoard.Toml
