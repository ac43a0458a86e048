/-
What a command line may say.

A command takes flags, some of them with a value, and perhaps words after them; the outermost one
has further commands below it.  One description of a command is all there is: the usage line and
the help are drawn up from it, and arguments are read by it.
-/
namespace HealthBoard.CommandLine

/-- A flag, without or with a value. -/
structure Flag where
  long : String
  short : Option Char := none
  /-- What its value is called, if it takes one. -/
  valueName : Option String := none
  help : String
  /-- The value that it has unless it is given. -/
  standard : Option String := none
  deriving DecidableEq

/-- Words that a command takes: what they are called, and what they are for. -/
structure Words where
  name : String
  help : String

structure Command where
  /-- The command with those above it, as the usage names it. -/
  path : String
  about : String
  flags : List Flag := []
  /-- Whether the flag that asks for help is understood. -/
  hasHelpFlag : Bool := true
  words : Option Words := none
  /-- The names of the commands below this one, and what they are about. -/
  below : List (String × String) := []

def helpFlag : Flag := { long := "help", short := some 'h', help := "Print help" }

namespace Flag

/-- A flag as the usage shows it. -/
def shown (f : Flag) : String :=
  "--" ++ f.long ++ match f.valueName with
    | some name => " <" ++ name ++ ">"
    | none => ""

/-- A flag as the help lists it, under its short name as well. -/
def listed (f : Flag) : String :=
  (match f.short with
    | some c => String.ofList ['-', c] ++ ", "
    | none => "    ") ++ f.shown

/-- What the help says of a flag. -/
def explained (f : Flag) : String :=
  f.help ++ match f.standard with
    | some value => " [default: " ++ value ++ "]"
    | none => ""

end Flag

def Words.shown (w : Words) : String := "[" ++ w.name ++ "]..."

namespace Command

/-- All flags that a command understands. -/
def allFlags (c : Command) : List Flag := c.flags ++ if c.hasHelpFlag then [helpFlag] else []

def flag? (c : Command) (long : String) : Option Flag := c.allFlags.find? fun f => f.long == long

def flagByShort? (c : Command) (short : Char) : Option Flag :=
  c.allFlags.find? fun f => f.short == some short

/-- Whether a command of this name is below. -/
def leadsTo (c : Command) (name : String) : Bool := c.below.any fun b => b.1 == name

/-- What may follow a command, or else the flags that are known to follow it. -/
def usageOf (c : Command) (used : List Flag) : String :=
  let parts :=
    if used.isEmpty then
      (if c.flags.isEmpty then [] else ["[OPTIONS]"]) ++
        (c.words.map Words.shown).toList ++ if c.below.isEmpty then [] else ["[COMMAND]"]
    else used.map Flag.shown
  " ".intercalate (c.path :: parts)

/-- The line that shows how a command is used. -/
def usage (c : Command) (used : List Flag := []) : String := "Usage: " ++ c.usageOf used

/-- Rows of two columns under a heading; nothing without rows. -/
def table (heading : String) (rows : List (String × String)) : String :=
  let width := (rows.map fun row => row.1.length).foldl max 0
  let row := fun (x : String × String) =>
    "  " ++ x.1 ++ String.ofList (List.replicate (width - x.1.length) ' ') ++ "  " ++ x.2 ++ "\n"
  if rows.isEmpty then "" else "\n" ++ heading ++ ":\n" ++ String.join (rows.map row)

/-- The help for a command. -/
def help (c : Command) : String :=
  c.about ++ "\n\n" ++ c.usage ++ "\n" ++
    table "Commands" c.below ++
    table "Arguments" (c.words.map fun w => (w.shown, w.help)).toList ++
    table "Options" (c.allFlags.map fun f => (f.listed, f.explained))

end Command
end HealthBoard.CommandLine
