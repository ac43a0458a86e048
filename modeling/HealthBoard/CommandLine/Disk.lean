/-
What the program finds on the disk and leaves there.

Two things matter: a file with settings, and the database in which the program keeps what it has
to remember.  A path is followed from the working folder, and what stands at its end is nothing, a
folder, a file, or a database.  A database that does not exist is made where it can be, that is,
in a folder that exists; and an empty file is an empty database.
-/
import HealthBoard.Fingerprint.Store
import HealthBoard.Settings.Source

namespace HealthBoard

/-- What stands at a path. -/
inductive Disk.Entry where
  | folder
  | file (contents : List UInt8)
  | database (content : Database)

/-- A disk, by the steps that lead to things from its root; the program runs in a folder of it. -/
structure Disk where
  workingFolder : List String := []
  entries : List (List String × Disk.Entry) := []

/-- Why a database cannot be used. -/
inductive DatabaseFault where
  | cannotOpen (path : String)
  /-- Something else is in the file. -/
  | foreign
  deriving DecidableEq

namespace Disk

/-- The parts of a text between the places where a character stands. -/
def parts (separator : Char) (text : String) : List String :=
  (text.toList.splitOn separator).map String.ofList

/-- Takes one step of a path. -/
def takeStep (place : List String) (step : String) : List String :=
  if step == "" || step == "." then place else if step == ".." then place.dropLast
  else place ++ [step]

/-- Where a path leads. -/
def follow (d : Disk) (path : String) : List String :=
  (parts '/' path).foldl takeStep (if path.startsWith "/" then [] else d.workingFolder)

/-- What stands somewhere; what other things or the program are in is a folder. -/
def at? (d : Disk) (place : List String) : Option Entry :=
  match d.entries.lookup place with
  | some entry => some entry
  | none =>
    if place.isPrefixOf d.workingFolder || d.entries.any fun e => place.isPrefixOf e.1 then
      some .folder
    else none

/-- A place as it is named from the working folder. -/
def nameFrom : List String → List String → String
  | a :: base, b :: place =>
    if a == b then nameFrom base place
    else "/".intercalate (List.replicate (base.length + 1) ".." ++ b :: place)
  | base, place => "/".intercalate (base.map (fun _ => "..") ++ place)

/-! ### Settings -/

/-- How settings are read that are neither JSON nor TOML, by the end of the file's name. -/
def SettingsReaders := String → SettingsReader

/-- The ends of names that settings may have. -/
def settingsEndings : List String := ["toml", "json", "yaml", "yml", "ini", "ron", "json5"]

/-- What a file is taken for, by the end of its name. -/
def formatOf? (readers : SettingsReaders) (place : List String) : Option FileFormat :=
  match (parts '.' (place.getLast?.getD "")).reverse with
  | ending :: stem :: more =>
    if more.isEmpty && stem == "" then none
    else match ending with
      | "toml" => some .toml
      | "json" => some .json
      | ending => if settingsEndings.contains ending then some (.other (readers ending)) else none
  | _ => none

/-- How every database file begins. -/
def databaseMark : String := "SQLite format 3" ++ String.singleton (Char.ofNat 0)

/-- The file that a path leads to. -/
def fileAt? (d : Disk) (place : List String) : Option (List UInt8) :=
  match d.at? place with
  | some (.file contents) => some contents
  | some (.database _) => some databaseMark.toUTF8.toList
  | _ => none

/-- The names under which settings are looked for, the best one first. -/
def settingsNames (name : String) : List String :=
  name :: settingsEndings.map fun ending => name ++ "." ++ ending

/--
The file with the settings of a name, if there is one: the file that is named or one that has the
end of a format in addition.  A file that is named but has the end of no format is left alone.
-/
def settingsFile? (d : Disk) (readers : SettingsReaders) (name : String) : Option SettingsFile :=
  let found := (settingsNames name).findSome? fun path =>
    (d.fileAt? (d.follow path)).map fun contents => (d.follow path, contents)
  found.bind fun (place, contents) =>
    (formatOf? readers place).map fun format =>
      { name := nameFrom d.workingFolder place, format, contents }

/-! ### Databases -/

/-- A database that is on no disk. -/
def isInMemory (path : String) : Bool := path == ":memory:" || path == ""

/-- The database of a path, brought up to date. -/
def openDatabase (d : Disk) (path : String) : Except DatabaseFault Database :=
  let fresh := KeyValueStore.fresh
  if isInMemory path then .ok fresh
  else
    let place := d.follow path
    match d.at? place with
    | some (.database content) => .ok content.migrate
    | some (.file []) => .ok fresh
    | some (.file _) => .error .foreign
    | some .folder => .error (.cannotOpen path)
    | none =>
      match d.at? place.dropLast with
      | some .folder => .ok fresh
      | _ => .error (.cannotOpen path)

/-- The disk with a database at a path. -/
def withDatabase (d : Disk) (path : String) (content : Database) : Disk :=
  if isInMemory path then d
  else { d with entries := upsert (d.follow path) (.database content) d.entries }

end Disk
end HealthBoard
