/-
A restart cannot be seen if the store outlives it.

Two stores agree if every key holds the same in both; how they hold it does not matter.  What a
step reads and writes only goes through the keys, so from stores that agree it is seen alike and
leaves stores that agree.  Opening a persistent store anew changes no key, so it leaves the store in
agreement with the other, of which nothing was done.  A run with restarts then looks like the run
without them, and that on any other store.
-/
import HealthBoard.Proofs.Fingerprint.Run

namespace HealthBoard.Throttle

open KeyValueStore (get? reopen fresh)
open LawfulStore (Ready)

variable {σ τ : Type} [KeyValueStore σ] [KeyValueStore τ] {interval : Int64}

/-! ### Stores that agree -/

/-- Every key holds the same in both stores. -/
def Agree (a : σ) (b : τ) : Prop := ∀ key, get? a key = get? b key

variable {a : σ} {b : τ}

theorem Agree.read_eq (h : Agree a b) (faults : Faults) (key : String) :
    read faults a key = read faults b key := by
  by_cases hf : key ∈ faults.reads
  · rw [read_of_mem hf, read_of_mem hf]
  · rw [read_of_not_mem hf, read_of_not_mem hf]
    exact h key

/-- Whether a call collects hangs on what it can read. -/
theorem Agree.collects_eq (h : Agree a b) (force : Bool) (w : World) :
    collects interval force w a = collects interval force w b := by
  unfold collects
  rw [h.read_eq]

variable [LawfulStore σ] [LawfulStore τ]

theorem Agree.write (h : Agree a b) (ha : Ready a) (hb : Ready b) (faults : Faults)
    (key value : String) : Agree (write faults a key value) (write faults b key value) := by
  by_cases hf : key ∈ faults.writes
  · rw [write_of_mem hf, write_of_mem hf]
    exact h
  · rw [write_of_not_mem hf, write_of_not_mem hf]
    intro other
    by_cases hkey : other = key
    · rw [hkey, LawfulStore.get?_set_self _ _ ha, LawfulStore.get?_set_self _ _ hb]
    · rw [LawfulStore.get?_set_ne hkey, LawfulStore.get?_set_ne hkey]
      exact h other

theorem Agree.keep (h : Agree a b) (ha : Ready a) (hb : Ready b) (w : World) (id : String) :
    Agree (keep w id a) (keep w id b) := by
  have hid := h.write ha hb w.faults visitorIdKey id
  unfold Throttle.keep
  split
  · exact hid.write (ready_write ha _ _ _) (ready_write hb _ _ _) _ _ _
  · exact hid

/-! ### Steps from stores that agree -/

/-- What comes of a step is seen alike, and agreement is not lost by it. -/
structure SeenAlike (x : Answer × List Act × σ) (y : Answer × List Act × τ) : Prop where
  answer : x.1 = y.1
  acts : x.2.1 = y.2.1
  agree : Agree x.2.2 y.2.2

omit [LawfulStore σ] in
theorem step_report (store : σ) (force : Bool) (w : World) :
    step interval store (.report force w)
      = (.reported (report interval force w store).result, (report interval force w store).acts,
          (report interval force w store).store) := rfl

theorem seenAlike_report (h : Agree a b) (ha : Ready a) (hb : Ready b) (force : Bool) (w : World) :
    SeenAlike (step interval a (.report force w)) (step interval b (.report force w)) := by
  have hsame : collects interval force w a = collects interval force w b := h.collects_eq force w
  rw [step_report, step_report]
  -- Both calls go the same way, so each outcome of the one is that of the other.
  cases hcol : collects interval force w a with
  | false =>
      rw [report_of_idle hcol, report_of_idle (hsame ▸ hcol), h.read_eq]
      exact ⟨rfl, rfl, h⟩
  | true =>
      cases hw : w.collected with
      | error fault =>
          rw [report_of_failed hcol hw, report_of_failed (hsame ▸ hcol) hw]
          exact ⟨rfl, rfl, h⟩
      | ok id =>
          rw [report_of_collected hcol hw, report_of_collected (hsame ▸ hcol) hw]
          exact ⟨rfl, rfl, h.keep ha hb w id⟩

/-- **From stores that agree, a step that does not open them anew is seen alike.** -/
theorem seenAlike_step (h : Agree a b) (ha : Ready a) (hb : Ready b) {s : Step}
    (hs : s ≠ .reopen) : SeenAlike (step interval a s) (step interval b s) := by
  cases s with
  | reopen => exact absurd rfl hs
  | report force w => exact seenAlike_report h ha hb force w
  | set key value faults =>
      refine ⟨?_, ?_, ?_⟩
      · simp only [step]
        split <;> rfl
      · simp only [step]
        split <;> rfl
      · rw [store_step_set, store_step_set]
        exact h.write ha hb faults key value
  | get key faults =>
      refine ⟨?_, ?_, ?_⟩
      · simp only [step, h key]
        split <;> rfl
      · simp only [step]
        split <;> rfl
      · rw [store_step_get, store_step_get]
        exact h

omit [LawfulStore σ] [LawfulStore τ] in
/-- What is seen of a step besides are two keys of the store it leaves. -/
theorem SeenAlike.seen_eq {s : Step} (h : SeenAlike (step interval a s) (step interval b s)) :
    seen interval a s = seen interval b s := by
  unfold seen
  rw [h.answer, h.acts, h.agree, h.agree]

/-! ### Runs with and without restarts -/

/-- The step opens the store anew. -/
def Step.isReopen : Step → Bool
  | .reopen => true
  | _ => false

theorem Step.isReopen_eq_false {s : Step} (hs : s ≠ .reopen) : s.isReopen = false := by
  cases s with
  | reopen => exact absurd rfl hs
  | _ => rfl

/--
**Restarts of a persistent store drop out of its history.**  The induction is on the steps, from
any two stores that agree; a restart is a step of the one store and none of the other.
-/
theorem filter_history (hσ : Persistent σ) {steps : List Step} :
    ∀ {a : σ} {b : τ}, Agree a b → Ready a → Ready b →
      (history interval a steps).filter (fun point => !point.1.isReopen)
        = history interval b (steps.filter fun s => !s.isReopen) := by
  induction steps with
  | nil => intro a b _ _ _; rfl
  | cons s rest ih =>
      intro a b h ha hb
      rw [history_cons]
      by_cases hs : s = .reopen
      · subst hs
        rw [List.filter_cons_of_neg (by simp [Step.isReopen]),
          List.filter_cons_of_neg (by simp [Step.isReopen]), store_step_reopen]
        exact ih (fun key => (hσ a key).trans (h key)) (LawfulStore.ready_reopen ha) hb
      · have halike : SeenAlike (step interval a s) (step interval b s) :=
          seenAlike_step h ha hb hs
        rw [List.filter_cons_of_pos (by simp [Step.isReopen_eq_false hs]),
          List.filter_cons_of_pos (by simp [Step.isReopen_eq_false hs]), history_cons,
          halike.seen_eq, ih halike.agree (ready_step ha s) (ready_step hb s)]

/--
**A restart cannot be seen.**  Take any steps, with restarts wherever they may be.  On a new
database each step that is no restart gives the same answer, does the same, and leaves the same two
facts stored as in the run of the other steps on a new store in memory.
-/
theorem history_without_restarts (interval : Int64) (steps : List Step) :
    (steps.zip (run interval (fresh : Database) steps)).filter (fun point => !point.1.isReopen)
      = (steps.filter fun s => !s.isReopen).zip
          (run interval (fresh : MemoryStore) (steps.filter fun s => !s.isReopen)) :=
  filter_history Database.persistent (fun _ => rfl) LawfulStore.ready_fresh LawfulStore.ready_fresh

end HealthBoard.Throttle
