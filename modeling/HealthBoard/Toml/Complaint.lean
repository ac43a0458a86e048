/-
Why a text is no TOML.

A complaint shows the line and marks the place where reading could not go on, and says what would
have been expected there.  Things that are given twice, or in two ways that do not go together,
are complained about at the beginning of the line that does so.
-/
import HealthBoard.Decimal.Integer

namespace HealthBoard.Toml

/-- Why something cannot be added to what a text has built up so far. -/
inductive Clash where
  /-- A key is there already; the table is named where that is known. -/
  | duplicate (key : String) (table : Option (List String))
  /-- A key leads through something that is no table. -/
  | noTable (path : List String) (found : String)
  deriving DecidableEq

def Clash.message : Clash → String
  | .duplicate key none => "duplicate key `" ++ key ++ "`"
  | .duplicate key (some []) => "duplicate key `" ++ key ++ "` in document root"
  | .duplicate key (some table) =>
    "duplicate key `" ++ key ++ "` in table `" ++ ".".intercalate table ++ "`"
  | .noTable path found =>
    "dotted key `" ++ ".".intercalate path ++ "` attempted to extend non-table type (" ++ found ++
      ")"

/-- The kinds of text. -/
inductive TextKind where
  | basic
  | literal
  | basicLines
  | literalLines
  deriving DecidableEq

def TextKind.name : TextKind → String
  | .basic => "basic string"
  | .literal => "literal string"
  | .basicLines => "multiline basic string"
  | .literalLines => "multiline literal string"

/-- What is wrong at a place. -/
inductive Cause where
  | key
  | afterKey
  | value
  /-- The beginning of a word that stands for a truth value. -/
  | word
  | wholeNumber
  | leadingDigit (kind : String)
  | text (kind : TextKind)
  | escape
  | hexEscape (digits : Nat)
  | array
  | closedTable
  | afterValue
  /-- A header does not end as it began. -/
  | header (closing : String)
  | afterHeader
  | tooDeep
  /-- Nothing can be said about what would have been expected. -/
  | unknown
  | clash (what : Clash)
  | headerClash (what : Clash)
  deriving DecidableEq

namespace Cause

def expected (words : List String) : String := "expected " ++ ", ".intercalate words

def signs (signs : List String) : List String := signs.map fun s => "`" ++ s ++ "`"

def message : Cause → String
  | .key => "invalid key"
  | .afterKey => expected (signs [".", "="])
  | .value | .word => "invalid string\n" ++ expected (signs ["\"", "'"])
  | .wholeNumber => "invalid integer"
  | .leadingDigit kind => "invalid " ++ kind ++ "\n" ++ expected ["leading digit"]
  | .text kind => "invalid " ++ kind.name
  | .escape =>
    "invalid escape sequence\n" ++ expected (signs ["b", "f", "n", "r", "t", "u", "U", "\\", "\""])
  | .hexEscape digits => "invalid unicode " ++ Decimal.text digits ++ "-digit hex code"
  | .array => "invalid array\n" ++ expected (signs ["]"])
  | .closedTable => "invalid inline table\n" ++ expected (signs ["\x7d"])
  | .afterValue => expected ("newline" :: signs ["#"])
  | .header closing => "invalid table header\n" ++ expected (signs [".", closing])
  | .afterHeader => "invalid table header\n" ++ expected ("newline" :: signs ["#"])
  | .tooDeep => "recursion limit exceeded"
  | .unknown => ""
  | .clash what => what.message
  | .headerClash what => "invalid table header\n" ++ what.message

end Cause

/-- What is wrong, and how many characters of the text were left where that was seen. -/
structure Fault where
  left : Nat
  cause : Cause
  deriving DecidableEq

namespace Fault

/-- The characters before the marked one; at the end of a text, those before its last one. -/
def before (f : Fault) (text : List Char) : List Char :=
  text.take (min (text.length - f.left) (text.length - 1))

/-- How much further than that character the mark stands. -/
def beyond (f : Fault) (text : List Char) : Nat :=
  if f.left == 0 && !text.isEmpty then 1 else 0

/-- How many marks there are: one for each byte of the character, within its line. -/
def markCount (f : Fault) (text line : List Char) (column : Nat) : Nat :=
  let width := (text.drop (text.length - f.left)).head?.elim 0 Char.utf8Size
  max 1 (min width ((line.map Char.utf8Size).foldl (· + ·) 0 - column))

/-- All that is said of a fault in a text. -/
def message (f : Fault) (text : List Char) : String :=
  let before := f.before text
  let indent := (before.reverse.takeWhile (· != '\n')).length
  let column := indent + f.beyond text
  let line := (text.drop (before.length - indent)).takeWhile (· != '\n')
  let shown := Decimal.text (before.count '\n' + 1)
  let gutter := String.ofList (List.replicate (shown.length + 1) ' ') ++ "|"
  let marks := List.replicate (column + 1) ' ' ++
    List.replicate (f.markCount text line column) '^'
  "TOML parse error at line " ++ shown ++ ", column " ++ Decimal.text (column + 1) ++ "\n" ++
    gutter ++ "\n" ++
    shown ++ " | " ++ String.ofList line ++ "\n" ++
    gutter ++ String.ofList marks ++ "\n" ++
    f.cause.message ++ "\n"

end Fault
end HealthBoard.Toml
