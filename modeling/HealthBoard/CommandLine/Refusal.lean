/-
Why the arguments of a program are refused.

A refusal says what is wrong, then what may have been meant, then how the command is used, and
last where help is to be had.  The usage shows what was given and understood so far where that is
known to go on; otherwise it shows all that may follow.
-/
import HealthBoard.CommandLine.Command

namespace HealthBoard.CommandLine

/-- What may have been meant. -/
inductive Tip where
  | flag (similar : Flag)
  /-- A flag of a command that comes later. -/
  | flagOf (command : String) (similar : Flag)
  | commands (similar : List String)
  /-- The name of a command after two dashes, where it is no name of a command. -/
  | withoutDashes (command : String)

namespace Tip

def quote (s : String) : String := "'" ++ s ++ "'"

def message : Tip → String
  | .flag similar => "a similar argument exists: " ++ quote ("--" ++ similar.long)
  | .flagOf command similar => quote (command ++ " --" ++ similar.long) ++ " exists"
  | .commands [similar] => "a similar subcommand exists: " ++ quote similar
  | .commands similar =>
    "some similar subcommands exist: " ++ ", ".intercalate (similar.map quote)
  | .withoutDashes command =>
    "subcommand " ++ quote command ++ " exists; to use it, remove the '--' before it"

end Tip

/-- What is wrong. -/
inductive Cause where
  | noValue (flag : Flag)
  | repeated (flag : Flag)
  /-- A value for a flag that takes none. -/
  | needlessValue (flag : Flag) (value : String)
  | unexpected (argument : String)
  | noCommand (name : String)

def Cause.message : Cause → String
  | .noValue flag => "a value is required for '" ++ flag.shown ++ "' but none was supplied"
  | .repeated flag => "the argument '" ++ flag.shown ++ "' cannot be used multiple times"
  | .needlessValue flag value =>
    "unexpected value '" ++ value ++ "' for '" ++ flag.shown ++ "' found; no more were expected"
  | .unexpected argument => "unexpected argument '" ++ argument ++ "' found"
  | .noCommand name => "unrecognized subcommand '" ++ name ++ "'"

/-- A refusal, by the command whose arguments were being read. -/
structure Refusal where
  command : Command
  cause : Cause
  tip : Option Tip := none
  /-- The flags that the usage shows. -/
  used : List Flag := []

namespace Refusal

/-- A missing value needs no usage: the complaint shows the flag already. -/
def usage? (r : Refusal) : Option String :=
  match r.cause with
  | .noValue _ => none
  | _ => some (r.command.usage r.used)

/-- All that is said. -/
def text (r : Refusal) : String :=
  let part (introduction : String) : Option String → String
    | some s => introduction ++ s
    | none => ""
  "error: " ++ r.cause.message ++
    part "\n\n  tip: " (r.tip.map Tip.message) ++
    part "\n\n" r.usage? ++
    (if r.command.hasHelpFlag then "\n\nFor more information, try '--help'." else "") ++ "\n"

end Refusal
end HealthBoard.CommandLine
