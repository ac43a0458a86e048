/-
What the program is told to do.

It serves the dashboard, which is what it does without being told, or it reports this machine once
and ends.  Both need settings, and where those are is the one thing that may be said in front.
-/
import HealthBoard.CommandLine.Arguments

namespace HealthBoard.CommandLine

/-- What to do. -/
inductive Task where
  | serve
  /-- Reports this machine; `force` does so even if the last report is recent. -/
  | reportFingerprint (force : Bool)
  deriving DecidableEq

/-- What the arguments of the program say. -/
structure Order where
  /-- Where the settings are. -/
  settingsName : String
  task : Task
  deriving DecidableEq

/-! ### The commands -/

def programName : String := "modelpulse"

def settingsFlag : Flag :=
  { long := "config", short := some 'c', valueName := some "CONFIG"
    help := "Path to config file", standard := some "config.toml" }

def forceFlag : Flag := { long := "force", help := "Report even if the last report is recent" }

def serveCommand : Command :=
  { path := programName ++ " serve", about := "Serve the dashboard API (default)" }

def reportCommand : Command :=
  { path := programName ++ " report-fingerprint"
    about := "Collect and report this machine's fingerprint once, then exit"
    flags := [forceFlag] }

def helpCommand : Command :=
  { path := programName ++ " help"
    about := "Print this message or the help of the given subcommand(s)"
    hasHelpFlag := false
    words := some ⟨"COMMAND", "Print help for the subcommand(s)"⟩ }

/-- The commands below the program, by name. -/
def commands : List (String × Command) :=
  [("serve", serveCommand), ("report-fingerprint", reportCommand), ("help", helpCommand)]

def program : Command :=
  { path := programName
    about := "Model health dashboards for a model gateway"
    flags := [settingsFlag]
    below := commands.map fun (name, command) => (name, command.about) }

/-! ### Orders -/

/-- The help for the command that the names lead to. -/
def helpAt : List String → Stop
  | [] => .help program
  | name :: rest =>
    match commands.lookup name, rest with
    | none, _ => .refused { command := program, cause := .noCommand name }
    | some command, [] => .help command
    | some command, next :: _ => .refused { command, cause := .noCommand next }

/-- What the command of a name is told. -/
def taskOf (name : String) (arguments : List String) : Except Stop Task :=
  match name with
  | "serve" => do
    let (p, _) ← serveCommand.read [] arguments {}
    let _ ← p.settle serveCommand
    return .serve
  | "report-fingerprint" => do
    let (p, _) ← reportCommand.read [] arguments {}
    let p ← p.settle reportCommand
    return .reportFingerprint (p.used.contains forceFlag)
  | _ => .error (helpAt arguments)

/-- What the program is told. -/
def Order.ofArguments (arguments : List String) : Except Stop Order := do
  let (p, next) ← program.read commands arguments {}
  let task ← match next with
    | none => pure .serve
    | some (name, rest) => taskOf name rest
  let p ← p.settle program
  let given := (p.given.find? fun g => g.1 == settingsFlag).map (·.2)
  return ⟨(given <|> settingsFlag.standard).getD "", task⟩

end HealthBoard.CommandLine
