/-
A database as the contents of a file.

The file says which migrations the database has seen and what its table holds, if it has one.
What does not have this form is no database.
-/
import HealthBoard.CommandLine.Disk
import HealthBoard.Json.Printer
import HealthBoard.Json.Reader

namespace HealthBoard.Database

/-- A database in the form in which it is written to a file. -/
def toJson (d : Database) : Json :=
  .obj [("migrations", .arr (d.applied.map fun (n : Nat) => .int n)),
    ("local_state", match d.localState with
      | some rows => .arr (rows.map fun (key, value) => .arr [.str key, .str value])
      | none => .null)]

/-- The number of a migration. -/
def readMigration? : Json → Option Nat
  | .int (.ofNat n) => some n
  | _ => none

/-- A key and its value. -/
def readRow? : Json → Option (String × String)
  | .arr [.str key, .str value] => some (key, value)
  | _ => none

/-- The database of a JSON value. -/
def ofJson? (j : Json) : Option Database := do
  match ← j.member? "migrations", ← j.member? "local_state" with
  | .arr ms, .null => return { applied := ← ms.mapM readMigration? }
  | .arr ms, .arr rows =>
    return { applied := ← ms.mapM readMigration?, localState := some (← rows.mapM readRow?) }
  | _, _ => none

end HealthBoard.Database

namespace HealthBoard.Disk.Entry

/-- What a file with these contents is. -/
def ofContents (contents : List UInt8) : Entry :=
  match (Json.parse contents).toOption.bind Database.ofJson? with
  | some content => .database content
  | none => .file contents

end HealthBoard.Disk.Entry
