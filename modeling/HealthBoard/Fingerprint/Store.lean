/-
Where small facts are kept: texts under keys.

There are two stores.  One lives in memory and is empty after every start.  The other is a table
of a database, which is brought up to date whenever it is opened: a migration that was applied
before is not applied again, so the rows survive.  Both are values, and what is done with them is
said once for any store.
-/
import HealthBoard.Keyed

namespace HealthBoard

/-- Texts under keys, and what becomes of them when the store is opened anew. -/
class KeyValueStore (σ : Type) where
  /-- A store that has just been opened for the first time. -/
  fresh : σ
  get? : σ → String → Option String
  set : σ → String → String → σ
  reopen : σ → σ

/-- A store that lives as long as the program does. -/
structure MemoryStore where
  entries : List (String × String) := []

instance : KeyValueStore MemoryStore where
  fresh := {}
  get? s key := s.entries.lookup key
  set s key value := { s with entries := upsert key value s.entries }
  reopen _ := {}

/-- A database: which migrations it has seen, and its one table, if that exists. -/
structure Database where
  applied : List Nat := []
  localState : Option (List (String × String)) := none

namespace Database

/-- The number of the migration that makes the table. -/
def tableMigration : Nat := 1

/-- Makes the table unless it exists. -/
def createTable (d : Database) : Database := { d with localState := some (d.localState.getD []) }

/-- Applies what was not applied yet, and remembers that. -/
def migrate (d : Database) : Database :=
  if d.applied.contains tableMigration then d
  else { d.createTable with applied := d.applied ++ [tableMigration] }

end Database

instance : KeyValueStore Database where
  fresh := Database.migrate {}
  get? d key := d.localState.bind fun rows => rows.lookup key
  set d key value := { d with localState := d.localState.map (upsert key value) }
  reopen := Database.migrate

end HealthBoard
