/-
Reading arguments.

Arguments are read from left to right.  A flag that takes a value takes it from its own argument,
after an equals sign or, under its short name, right behind it; otherwise the next argument is the
value, unless that looks like a flag.  Two dashes end the flags.  The name of a command ends the
arguments of the one above it.

A value is settled late: only when the next flag comes, or at the end, is it noticed that a value
is missing or that a flag was given twice.  So of two things that are wrong the one further right
may be complained about.
-/
import HealthBoard.CommandLine.Refusal
import HealthBoard.Text.Likeness

namespace HealthBoard.CommandLine

/-- What has been read so far. -/
structure Progress where
  /-- The flags that are settled, in the order in which they were given, and their values. -/
  given : List (Flag × String) := []
  /-- A flag that is not settled yet, and the value that was found for it. -/
  pending : Option (Flag × Option String) := none

/-- Why reading ends early: help was asked for, or the arguments are refused. -/
inductive Stop where
  | help (command : Command)
  | refused (refusal : Refusal)

namespace Progress

/-- The flags that the usage shows. -/
def used (p : Progress) : List Flag := p.given.map (·.1)

/-- A flag waits for the next argument. -/
def isWaiting (p : Progress) : Bool :=
  match p.pending with
  | some (_, none) => true
  | _ => false

/-- Settles a flag, which must not be given twice. -/
def add (c : Command) (f : Flag) (value : String) (p : Progress) : Except Stop Progress :=
  if p.used.contains f then .error (.refused { command := c, cause := .repeated f })
  else .ok { p with given := p.given ++ [(f, value)] }

/-- Settles what is not settled. -/
def settle (c : Command) (p : Progress) : Except Stop Progress :=
  match p.pending with
  | none => .ok p
  | some (f, none) => .error (.refused { command := c, cause := .noValue f })
  | some (f, some value) => { p with pending := none }.add c f value

/-- What counts as used when an unknown argument follows: a flag that was given twice does not. -/
def usedAtEnd (p : Progress) : List Flag :=
  match p.pending with
  | some (f, some _) => if p.used.contains f then p.used.filter (· != f) else p.used ++ [f]
  | _ => p.used

/-- A flag, with the value that its own argument holds. -/
def give (c : Command) (f : Flag) (value : Option String) (p : Progress) :
    Except Stop Progress := do
  let p ← p.settle c
  if f.valueName.isSome then
    match value with
    | some v => p.add c f v
    | none => return { p with pending := some (f, none) }
  else if f == helpFlag then throw (.help c)
  else p.add c f ""

end Progress

/-- The part after two dashes, cut at the first equals sign. -/
def longFlag? (argument : String) : Option (String × Option String) :=
  match argument.toList with
  | '-' :: '-' :: rest =>
    let name := String.ofList (rest.takeWhile (· != '='))
    some (name, ((rest.dropWhile (· != '=')).tail?).map String.ofList)
  | _ => none

/-- The part after a single dash. -/
def shortFlags? (argument : String) : Option (List Char) :=
  match argument.toList with
  | '-' :: c :: rest => some (c :: rest)
  | _ => none

namespace Command

/-- What an unknown flag may be meant to be: a flag like it, or one of a command further right. -/
def tipFor (c : Command) (commands : List (String × Command)) (long : String)
    (rest : List String) : Option Tip :=
  let best (c : Command) : Option Flag :=
    (Text.similar long (c.allFlags.map (·.long))).getLast?.bind c.flag?
  match best c with
  | some f => some (.flag f)
  | none => rest.findSome? fun argument =>
    (commands.lookup argument).bind fun below => (best below).map (.flagOf argument ·)

/-- The refusal of an unknown flag; the usage shows what it may be meant to be. -/
def unknownFlag (c : Command) (commands : List (String × Command)) (long : String)
    (rest : List String) (p : Progress) : Refusal :=
  let tip := c.tipFor commands long rest
  let used := p.usedAtEnd
  { command := c
    cause := .unexpected ("--" ++ long)
    tip
    used := match tip with
      | some (.flag f) => if used.contains f then used else used ++ [f]
      | _ => used }

/-- The refusal of an argument that is no flag. -/
def strayWord (c : Command) (word : String) : Refusal :=
  if c.below.isEmpty then { command := c, cause := .unexpected word }
  else
    match Text.similar word (c.below.map (·.1)) with
    | [] => { command := c, cause := .noCommand word }
    | similar => { command := c, cause := .noCommand word, tip := some (.commands similar) }

/-- The refusal of the first argument after two dashes. -/
def wordAfterDashes (c : Command) (word : String) : Refusal :=
  if c.leadsTo word then
    { command := c, cause := .unexpected word, tip := some (.withoutDashes word) }
  else c.strayWord word

/-- Short flags in one argument; behind one that takes a value stands the value. -/
def readShort (c : Command) : List Char → Progress → Except Stop Progress
  | [], p => .ok p
  | letter :: rest, p =>
    match c.flagByShort? letter with
    | none => .error (.refused
        { command := c, cause := .unexpected (String.ofList ['-', letter]) })
    | some f =>
      if f.valueName.isSome then
        p.give c f <| match rest with
          | [] => none
          | '=' :: value => some (String.ofList value)
          | value => some (String.ofList value)
      else do c.readShort rest (← p.give c f none)

/-- A flag under its long name. -/
def readLong (c : Command) (commands : List (String × Command)) (name : String)
    (value : Option String) (rest : List String) (p : Progress) : Except Stop Progress :=
  match c.flag? name with
  | none => .error (.refused (c.unknownFlag commands name rest p))
  | some f =>
    match f.valueName, value with
    | none, some v => .error (.refused
        { command := c, cause := .needlessValue f v
          used := if p.used.contains f then p.used else p.used ++ [f] })
    | _, _ => p.give c f value

/-- Reads arguments up to the name of a command below, if there is one. -/
def read (c : Command) (commands : List (String × Command)) :
    List String → Progress → Except Stop (Progress × Option (String × List String))
  | [], p => .ok (p, none)
  | argument :: rest, p => do
    if !p.isWaiting && c.leadsTo argument then return (p, some (argument, rest))
    if argument == "--" then
      match rest with
      | [] => return (p, none)
      | word :: _ => throw (.refused (c.wordAfterDashes word))
    match longFlag? argument, shortFlags? argument, p.pending with
    | some (name, value), _, _ => c.read commands rest (← c.readLong commands name value rest p)
    | none, some letters, _ => c.read commands rest (← c.readShort letters p)
    | none, none, some (f, none) =>
      c.read commands rest { p with pending := some (f, some argument) }
    | none, none, _ => throw (.refused (c.strayWord argument))

end Command
end HealthBoard.CommandLine
