/-
Runs of the throttle, and where in a run one stands.

A run is seen from outside as a list of traces.  What a step found in the store is not among them,
but it is what the steps before left: `history_split` turns any point of a history into the steps
before it and the store they lead to.  So a property of runs is proved of the store after a run
first, by one step at a time, and then holds at every point.
-/
import HealthBoard.Proofs.Fingerprint.Call

namespace HealthBoard.Throttle

open KeyValueStore (get?)
open LawfulStore (Ready)

variable {σ : Type} [KeyValueStore σ] {interval : Int64}

/-- The store after some steps. -/
def after (interval : Int64) : σ → List Step → σ
  | store, [] => store
  | store, s :: rest => after interval (step interval store s).2.2 rest

/-- What is seen of one step. -/
def seen (interval : Int64) (store : σ) (s : Step) : Trace :=
  ⟨(step interval store s).1, (step interval store s).2.1,
    get? (step interval store s).2.2 lastReportKey,
    get? (step interval store s).2.2 visitorIdKey⟩

/-- The steps of a run, each with what is seen of it. -/
def history (interval : Int64) (store : σ) (steps : List Step) : List (Step × Trace) :=
  steps.zip (run interval store steps)

@[simp] theorem history_nil (store : σ) : history interval store [] = [] := rfl

@[simp] theorem history_cons (store : σ) (s : Step) (rest : List Step) :
    history interval store (s :: rest)
      = (s, seen interval store s) :: history interval (step interval store s).2.2 rest := rfl

theorem after_append {later : List Step} :
    ∀ {earlier : List Step} {store : σ}, after interval store (earlier ++ later)
      = after interval (after interval store earlier) later := by
  intro earlier
  induction earlier with
  | nil => intro store; rfl
  | cons s rest ih => intro store; exact ih

theorem history_append {later : List Step} :
    ∀ {earlier : List Step} {store : σ}, history interval store (earlier ++ later)
      = history interval store earlier
        ++ history interval (after interval store earlier) later := by
  intro earlier
  induction earlier with
  | nil => intro store; rfl
  | cons s rest ih =>
      intro store
      rw [List.cons_append, history_cons, ih]
      rfl

/-- The steps of a history are the steps that were taken. -/
theorem map_fst_history {steps : List Step} :
    ∀ {store : σ}, (history interval store steps).map Prod.fst = steps := by
  induction steps with
  | nil => intro store; rfl
  | cons s rest ih =>
      intro store
      rw [history_cons, List.map_cons, ih]

/-- **Every point of a history is a step taken from the store that the steps before it left.** -/
theorem history_split {s : Step} {trace : Trace} {future : List (Step × Trace)} :
    ∀ {past : List (Step × Trace)} {store : σ} {steps : List Step},
      history interval store steps = past ++ (s, trace) :: future →
      ∃ earlier later, steps = earlier ++ s :: later ∧
        past = history interval store earlier ∧
        trace = seen interval (after interval store earlier) s := by
  intro past
  induction past with
  | nil =>
      intro store steps h
      cases steps with
      | nil => simp at h
      | cons first rest =>
          rw [history_cons, List.nil_append] at h
          obtain ⟨hfirst, -⟩ := List.cons.inj h
          obtain ⟨rfl, rfl⟩ := Prod.mk.inj hfirst
          exact ⟨[], rest, rfl, rfl, rfl⟩
  | cons point past ih =>
      intro store steps h
      cases steps with
      | nil => simp at h
      | cons first rest =>
          rw [history_cons, List.cons_append] at h
          obtain ⟨hfirst, hrest⟩ := List.cons.inj h
          obtain ⟨earlier, later, hsteps, hpast, htrace⟩ := ih hrest
          refine ⟨first :: earlier, later, by rw [hsteps]; rfl, ?_, htrace⟩
          rw [history_cons, hfirst, hpast]

/-! ### What a step leaves in the store

Setting a key is a write like any other, and reading one leaves everything as it was.
-/

@[simp] theorem store_step_report (store : σ) (force : Bool) (w : World) :
    (step interval store (.report force w)).2.2 = (report interval force w store).store := rfl

@[simp] theorem store_step_set (store : σ) (key value : String) (faults : Faults) :
    (step interval store (.set key value faults)).2.2 = write faults store key value := by
  simp only [step, write]
  split <;> rfl

@[simp] theorem store_step_get (store : σ) (key : String) (faults : Faults) :
    (step interval store (.get key faults)).2.2 = store := by
  simp only [step]
  split <;> rfl

@[simp] theorem store_step_reopen (store : σ) :
    (step interval store .reopen).2.2 = KeyValueStore.reopen store := rfl

/-! ### A store stays ready -/

variable [LawfulStore σ]

theorem ready_report {store : σ} (h : Ready store) (force : Bool) (w : World) :
    Ready (report interval force w store).store := by
  rcases report_cases interval force w store with ⟨-, ho⟩ | ⟨-, fault, -, ho⟩ | ⟨-, id, -, ho⟩
  · rw [ho]
    exact h
  · rw [ho]
    exact h
  · rw [ho]
    exact ready_keep h w id

theorem ready_step {store : σ} (h : Ready store) (s : Step) :
    Ready (step interval store s).2.2 := by
  cases s with
  | report force w => exact ready_report h force w
  | set key value faults =>
      rw [store_step_set]
      exact ready_write h faults key value
  | get key faults =>
      rw [store_step_get]
      exact h
  | reopen => exact LawfulStore.ready_reopen h

theorem ready_after {steps : List Step} :
    ∀ {store : σ}, Ready store → Ready (after interval store steps) := by
  induction steps with
  | nil => intro store h; exact h
  | cons s rest ih => intro store h; exact ih (ready_step h s)

end HealthBoard.Throttle
