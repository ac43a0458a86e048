/-
What can be wrong with a JSON text, and how it is said.

There are two kinds of trouble.  A text can break the grammar, which is seen at some byte of it.
Or it can be a JSON text of the wrong form: a value of another type, a member missing, one too
many.  The second kind, a `Mismatch`, needs no text to be said; a decoder of values has only that.

A complaint about a text knows where the reader stood, as the number of bytes left to read, and
on the way to which member or item it arose.  Lines and columns are worked out from that when the
complaint is shown.
-/
import HealthBoard.Decimal.Layout
import HealthBoard.Text.Quoted

namespace HealthBoard.Json

/-- A breach of the grammar. -/
inductive SyntaxFault where
  | endInValue
  | endInObject
  | endInList
  | endInString
  | expectedValue
  | expectedIdent
  | expectedCommaOrBrace
  | expectedCommaOrBracket
  | expectedColon
  | keyNotString
  | trailingComma
  | trailingCharacters
  | badNumber
  | numberOutOfRange
  | badEscape
  | controlCharacter
  | loneSurrogate
  | cutHexEscape
  | badCodePoint
  | tooDeep
  deriving DecidableEq, Repr

def SyntaxFault.message : SyntaxFault → String
  | .endInValue => "EOF while parsing a value"
  | .endInObject => "EOF while parsing an object"
  | .endInList => "EOF while parsing a list"
  | .endInString => "EOF while parsing a string"
  | .expectedValue => "expected value"
  | .expectedIdent => "expected ident"
  | .expectedCommaOrBrace => "expected `,` or `\x7d`"
  | .expectedCommaOrBracket => "expected `,` or `]`"
  | .expectedColon => "expected `:`"
  | .keyNotString => "key must be a string"
  | .trailingComma => "trailing comma"
  | .trailingCharacters => "trailing characters"
  | .badNumber => "invalid number"
  | .numberOutOfRange => "number out of range"
  | .badEscape => "invalid escape"
  | .controlCharacter => "control character (\\u0000-\\u001F) found while parsing a string"
  | .loneSurrogate => "lone leading surrogate in hex escape"
  | .cutHexEscape => "unexpected end of hex escape"
  | .badCodePoint => "invalid unicode code point"
  | .tooDeep => "recursion limit exceeded"

/-- The text ended too early. -/
def SyntaxFault.isEnd : SyntaxFault → Bool
  | .endInValue | .endInObject | .endInList | .endInString => true
  | _ => false

/-- A value as a complaint names it. -/
inductive Found where
  | null
  | boolean (b : Bool)
  | integer (n : Int)
  | number (x : Float)
  | text (s : String)
  | sequence
  | map

def Found.message : Found → String
  | .null => "null"
  | .boolean b => "boolean `" ++ (if b then "true" else "false") ++ "`"
  | .integer n => "integer `" ++ Decimal.text n ++ "`"
  | .number x => "floating point `" ++ Decimal.jsonLayout.text x ++ "`"
  | .text s => "string " ++ Text.quoted s
  | .sequence => "sequence"
  | .map => "map"

/-- A value or a text that is JSON, but not of the form asked for. -/
inductive Mismatch where
  | missing (field : String)
  | repeated (field : String)
  | wrongType (found : Found) (wanted : String)
  | wrongValue (found : Found) (wanted : String)
  | tooShort (length : Nat) (record : String) (fields : Nat)
  | tooLong (length : Nat)
  | unknownVariant (name : String) (known : List String)

def Mismatch.message : Mismatch → String
  | .missing field => "missing field `" ++ field ++ "`"
  | .repeated field => "duplicate field `" ++ field ++ "`"
  | .wrongType found wanted => "invalid type: " ++ found.message ++ ", expected " ++ wanted
  | .wrongValue found wanted => "invalid value: " ++ found.message ++ ", expected " ++ wanted
  | .tooShort length record fields =>
    "invalid length " ++ Decimal.text length ++ ", expected struct " ++ record ++ " with " ++
      Decimal.text fields ++ (if fields == 1 then " element" else " elements")
  | .tooLong length =>
    "invalid length " ++ Decimal.text length ++ ", expected fewer elements in array"
  | .unknownVariant name known =>
    "unknown variant `" ++ name ++ "`, expected one of " ++
      ", ".intercalate (known.map fun k => "`" ++ k ++ "`")

/-- What is wrong with a text. -/
inductive Cause where
  | grammar (fault : SyntaxFault)
  | form (mismatch : Mismatch)

def Cause.message : Cause → String
  | .grammar fault => fault.message
  | .form mismatch => mismatch.message

/-- The kinds of trouble that callers tell apart. -/
inductive Category where
  | grammar
  | ended
  | form
  deriving DecidableEq, Repr

def Cause.category : Cause → Category
  | .grammar fault => if fault.isEnd then .ended else .grammar
  | .form _ => .form

/-- A step from a value into one of its parts. -/
inductive Step where
  | key (name : String)
  | index (i : Nat)

/-- What is wrong, where the reader stood, and the way that led there, outermost step first. -/
structure Complaint where
  cause : Cause
  /-- How many bytes were still unread. -/
  left : Nat
  path : List Step := []

/-- The steps as one text: names joined by points, positions in brackets. -/
def pathText : List Step → String
  | [] => ""
  | .key name :: rest => name ++ tail rest
  | .index i :: rest => "[" ++ Decimal.text i ++ "]" ++ tail rest
where
  tail : List Step → String
    | [] => ""
    | .key name :: rest => "." ++ name ++ tail rest
    | .index i :: rest => "[" ++ Decimal.text i ++ "]" ++ tail rest

/-- Line and column after the given bytes: lines count from one, columns the bytes of the line. -/
def lineColumn (consumed : List UInt8) : Nat × Nat :=
  consumed.foldl (fun (line, column) (b : UInt8) =>
    if b == 0x0A then (line + 1, 0) else (line, column + 1))
    (1, 0)

/-- A complaint about a text, with its place. -/
def Complaint.message (text : List UInt8) (c : Complaint) : String :=
  let (line, column) := lineColumn (text.take (text.length - c.left))
  c.cause.message ++ " at line " ++ Decimal.text line ++ " column " ++ Decimal.text column

end HealthBoard.Json
