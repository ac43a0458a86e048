/-
What a state file keeps from one run to the next.

A database is had at a place if one is there, or if it can be made: in an empty file, or where
nothing is, in a folder (`Disk.OpensAt`).  Opening brings it up to date, which changes no key; and
what is up to date is not changed by being opened again.  So a database that was written back is
found again as it was left, by whatever path the place is reached.
-/
import HealthBoard.CommandLine.Disk
import HealthBoard.Proofs.Fingerprint.Run

namespace HealthBoard

open KeyValueStore (get? fresh)

/-! ### Databases that are up to date -/

namespace Database

/-- There is nothing left to apply. -/
def IsCurrent (d : Database) : Prop := d.applied.contains tableMigration = true

theorem isCurrent_migrate (d : Database) : d.migrate.IsCurrent := by
  unfold migrate
  split
  · rename_i h
    exact h
  · simp [IsCurrent]

theorem IsCurrent.migrate_eq {d : Database} (h : d.IsCurrent) : d.migrate = d := if_pos h

theorem isCurrent_fresh : IsCurrent fresh := isCurrent_migrate {}

/-- A call of the throttle leaves a database up to date. -/
theorem IsCurrent.report {d : Database} (h : d.IsCurrent) (interval : Int64) (force : Bool)
    (w : Throttle.World) : (Throttle.report interval force w d).store.IsCurrent := by
  have hwrite : ∀ {d : Database} (key value : String), d.IsCurrent →
      (Throttle.write w.faults d key value).IsCurrent := by
    intro d key value h
    unfold Throttle.write
    split
    · exact h
    · exact h
  rcases Throttle.report_cases interval force w d with ⟨-, ho⟩ | ⟨-, fault, -, ho⟩ | ⟨-, id, -, ho⟩
  · rw [ho]
    exact h
  · rw [ho]
    exact h
  · rw [ho]
    show (Throttle.keep w id d).IsCurrent
    unfold Throttle.keep
    split
    · exact hwrite _ _ (hwrite _ _ h)
    · exact hwrite _ _ h

end Database

namespace Disk

variable {d : Disk} {path : String} {place : List String} {database : Database}

/-! ### Databases that can be had -/

/-- The database that is had at a place, brought up to date. -/
inductive OpensAt (d : Disk) (place : List String) : Database → Prop where
  | database {content : Database} (hat : d.at? place = some (.database content)) :
      OpensAt d place content.migrate
  | empty (hat : d.at? place = some (.file [])) : OpensAt d place fresh
  | absent (hat : d.at? place = none) (hfolder : d.at? place.dropLast = some .folder) :
      OpensAt d place fresh

/-- The database that is had under a path; one that is on no disk is always new. -/
inductive Opens (d : Disk) (path : String) : Database → Prop where
  | inMemory (hmemory : isInMemory path = true) : Opens d path fresh
  | onDisk {database : Database} (hdisk : isInMemory path = false)
      (hopens : d.OpensAt (d.follow path) database) : Opens d path database

theorem Opens.opensAt (h : d.Opens path database) (hdisk : isInMemory path = false) :
    d.OpensAt (d.follow path) database := by
  cases h with
  | inMemory hmemory =>
      rw [hdisk] at hmemory
      cases hmemory
  | onDisk _ hopens => exact hopens

/-- Opening finds the database that is had, or else fails. -/
theorem openDatabase_eq_ok_iff : d.openDatabase path = .ok database ↔ d.Opens path database := by
  constructor
  · intro h
    unfold openDatabase at h
    cases hmemory : isInMemory path with
    | true =>
        rw [hmemory] at h
        cases h
        exact .inMemory hmemory
    | false =>
        refine .onDisk hmemory ?_
        simp only [hmemory, Bool.false_eq_true, if_false] at h
        split at h
        · rename_i content hat
          cases h
          exact .database hat
        · rename_i hat
          cases h
          exact .empty hat
        · cases h
        · cases h
        · rename_i hat
          split at h
          · rename_i hfolder
            cases h
            exact .absent hat hfolder
          · cases h
  · intro h
    unfold openDatabase
    cases h with
    | inMemory hmemory => rw [if_pos hmemory]
    | onDisk hdisk hopens =>
        rw [if_neg (by simp [hdisk])]
        cases hopens with
        | database hat => simp only [hat]
        | empty hat => simp only [hat]
        | absent hat hfolder => simp only [hat, hfolder]

theorem exists_fault_of_not_opens (h : ∀ database, ¬ d.Opens path database) :
    ∃ fault, d.openDatabase path = .error fault := by
  cases hopen : d.openDatabase path with
  | error fault => exact ⟨fault, rfl⟩
  | ok database => exact absurd (openDatabase_eq_ok_iff.mp hopen) (h database)

theorem OpensAt.unique {a b : Database} (ha : d.OpensAt place a) (hb : d.OpensAt place b) :
    a = b := by
  cases ha <;> cases hb <;> simp_all

theorem OpensAt.isCurrent (h : d.OpensAt place database) : database.IsCurrent := by
  cases h with
  | database => exact Database.isCurrent_migrate _
  | empty => exact Database.isCurrent_fresh
  | absent => exact Database.isCurrent_fresh

/-! ### What is stored -/

/-- What the database under a path holds under a key, if there is one and it does. -/
def stored? (d : Disk) (path key : String) : Option String :=
  match isInMemory path, d.at? (d.follow path) with
  | false, some (.database content) => get? content key
  | _, _ => none

/-- Opening changes no key. -/
theorem Opens.get?_eq (h : d.Opens path database) (key : String) :
    get? database key = d.stored? path key := by
  unfold stored?
  cases h with
  | inMemory hmemory =>
      rw [hmemory]
      rfl
  | onDisk hdisk hopens =>
      rw [hdisk]
      cases hopens with
      | database hat =>
          rw [hat]
          exact Database.persistent _ key
      | empty hat =>
          rw [hat]
          rfl
      | absent hat hfolder =>
          rw [hat]
          rfl

@[simp] theorem follow_withDatabase (other : String) :
    (d.withDatabase path database).follow other = d.follow other := by
  unfold withDatabase
  split <;> rfl

theorem at?_withDatabase (hdisk : isInMemory path = false) :
    (d.withDatabase path database).at? (d.follow path) = some (.database database) := by
  have hfound : (d.withDatabase path database).entries.lookup (d.follow path)
      = some (.database database) := by
    rw [withDatabase, if_neg (by simp [hdisk])]
    exact lookup_upsert_self _ _ _
  rw [at?, hfound]

theorem withDatabase_of_inMemory (hmemory : isInMemory path = true) :
    d.withDatabase path database = d := by
  rw [withDatabase, if_pos hmemory]

/-- **What was written back is found again.** -/
theorem opensAt_withDatabase (hdisk : isInMemory path = false) (hcurrent : database.IsCurrent) :
    (d.withDatabase path database).OpensAt (d.follow path) database := by
  have h : (d.withDatabase path database).OpensAt (d.follow path) database.migrate :=
    .database (at?_withDatabase hdisk)
  rw [hcurrent.migrate_eq] at h
  exact h

theorem stored?_withDatabase (hdisk : isInMemory path = false) (key : String) :
    (d.withDatabase path database).stored? path key = get? database key := by
  rw [stored?, hdisk, follow_withDatabase, at?_withDatabase hdisk]

/-- A database that is written back with the keys that it had changes none of the disk's. -/
theorem Opens.stored?_withDatabase {after : Database} (h : d.Opens path database)
    (hkept : ∀ key, get? after key = get? database key) (key : String) :
    (d.withDatabase path after).stored? path key = d.stored? path key := by
  cases hmemory : isInMemory path with
  | true => rw [withDatabase_of_inMemory hmemory]
  | false => rw [Disk.stored?_withDatabase hmemory, hkept, h.get?_eq]

end Disk

end HealthBoard
