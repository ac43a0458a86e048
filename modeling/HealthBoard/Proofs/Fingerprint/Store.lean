/-
What both stores promise.

A write can be read back, and it touches no other key.  The store in memory promises that always.
A database promises it once its table exists, which opening it takes care of; without the table it
has nowhere to put a row.  `Ready` is what a store has to be for its promises to hold, and neither
a write nor opening the store anew takes it away.

Opening anew is where the two differ: the database keeps its rows, the memory loses everything.
-/
import HealthBoard.Fingerprint.Store

namespace HealthBoard

open KeyValueStore (get? set reopen fresh)

/-- A store whose writes can be read back. -/
class LawfulStore (σ : Type) [KeyValueStore σ] where
  /-- The store can be written to. -/
  Ready : σ → Prop
  ready_fresh : Ready fresh
  ready_set {store : σ} (key value : String) : Ready store → Ready (set store key value)
  ready_reopen {store : σ} : Ready store → Ready (reopen store)
  get?_set_self {store : σ} (key value : String) :
    Ready store → get? (set store key value) key = some value
  get?_set_ne {key other : String} (h : other ≠ key) (store : σ) (value : String) :
    get? (set store key value) other = get? store other

/-- What is stored is still there after the store was opened anew. -/
def Persistent (σ : Type) [KeyValueStore σ] : Prop :=
  ∀ (store : σ) (key : String), get? (reopen store) key = get? store key

/-- No key holds anything. -/
def Bare {σ : Type} [KeyValueStore σ] (store : σ) : Prop := ∀ key, get? store key = none

/-- A store that was opened anew holds everything that it held before, or nothing. -/
def WholeOrNothing (σ : Type) [KeyValueStore σ] : Prop :=
  ∀ store : σ, (∀ key, get? (reopen store) key = get? store key) ∨ Bare (reopen store)

theorem Persistent.wholeOrNothing {σ : Type} [KeyValueStore σ] (h : Persistent σ) :
    WholeOrNothing σ :=
  fun store => .inl (h store)

theorem MemoryStore.wholeOrNothing : WholeOrNothing MemoryStore := fun _ => .inr fun _ => rfl

instance : LawfulStore MemoryStore where
  Ready _ := True
  ready_fresh := trivial
  ready_set _ _ _ := trivial
  ready_reopen _ := trivial
  get?_set_self key value _ := lookup_upsert_self key value _
  get?_set_ne h store value := lookup_upsert_ne h value store.entries

namespace Database

/-- Opening a database makes the table, or else it was there. -/
theorem localState_migrate (d : Database) :
    d.migrate.localState = d.localState ∨
      d.migrate.localState = some (d.localState.getD []) := by
  unfold migrate
  split
  · exact Or.inl rfl
  · exact Or.inr rfl

theorem isSome_migrate {d : Database} (h : d.localState.isSome) :
    d.migrate.localState.isSome := by
  rcases localState_migrate d with hsame | hmade
  · rw [hsame]
    exact h
  · rw [hmade]
    rfl

theorem persistent : Persistent Database := by
  intro d key
  show (d.migrate.localState.bind fun rows => rows.lookup key)
    = d.localState.bind fun rows => rows.lookup key
  rcases localState_migrate d with hsame | hmade
  · rw [hsame]
  · rw [hmade]
    cases d.localState with
    | none => rfl
    | some rows => rfl

end Database

instance : LawfulStore Database where
  Ready d := d.localState.isSome
  ready_fresh := rfl
  ready_set key value h := by
    show (Option.map _ _).isSome = true
    rw [Option.isSome_map]
    exact h
  ready_reopen h := Database.isSome_migrate h
  get?_set_self {d} key value h := by
    obtain ⟨rows, hrows⟩ := Option.isSome_iff_exists.mp h
    show ((d.localState.map (upsert key value)).bind fun rows => rows.lookup key) = some value
    rw [hrows]
    exact lookup_upsert_self key value rows
  get?_set_ne {key other} h d value := by
    show ((d.localState.map (upsert key value)).bind fun rows => rows.lookup other)
      = d.localState.bind fun rows => rows.lookup other
    cases d.localState with
    | none => rfl
    | some rows => exact lookup_upsert_ne h value rows

end HealthBoard
