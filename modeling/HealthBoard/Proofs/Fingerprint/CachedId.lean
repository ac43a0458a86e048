/-
The id that is kept is the one that was collected last.

A time of a report is never kept without an id: the id is written first, and only a report that
collected one writes the time.  A call that does not collect needs a time to be there, so it always
finds an id to answer with.  Which id that is follows one step at a time: a collection puts its id
there, and every other step leaves what is there, unless the store is opened anew and comes back
empty.  From there on the account begins again, hence `SinceEmpty`.
-/
import HealthBoard.Proofs.Fingerprint.Run
import Mathlib.Data.List.Induction

namespace HealthBoard.Throttle

open KeyValueStore (get? reopen fresh)
open LawfulStore (Ready)

variable {σ : Type} [KeyValueStore σ] {interval : Int64}

/-! ### The last collection of a run -/

/-- The id that a step collected, if it did. -/
def collectedId? : Step → List Act → Option String
  | .report _ w, acts => if .collect ∈ acts then w.collected.toOption else none
  | _, _ => none

/-- The id that was collected last, if any was. -/
def lastCollected? (points : List (Step × Trace)) : Option String :=
  (points.filterMap fun point => collectedId? point.1 point.2.acts).getLast?

theorem lastCollected?_snoc (points : List (Step × Trace)) (point : Step × Trace) :
    lastCollected? (points ++ [point])
      = (collectedId? point.1 point.2.acts).or (lastCollected? points) := by
  unfold lastCollected?
  rw [List.filterMap_append, List.getLast?_append]
  cases h : collectedId? point.1 point.2.acts with
  | none => simp [h]
  | some id => simp [h]

/-- The points of a run up to the last one that left the store empty, and those since. -/
structure SinceEmpty (interval : Int64) (store : σ) (old recent : List (Step × Trace)) : Prop where
  bare : Bare (after interval store (old.map Prod.fst))
  last : ∀ front back, recent = front ++ back → front ≠ [] →
    ¬ Bare (after interval store ((old ++ front).map Prod.fst))

theorem SinceEmpty.snoc {store : σ} {old recent : List (Step × Trace)} {point : Step × Trace}
    (h : SinceEmpty interval store old recent)
    (hbare : ¬ Bare (after interval store ((old ++ (recent ++ [point])).map Prod.fst))) :
    SinceEmpty interval store old (recent ++ [point]) where
  bare := h.bare
  last := by
    intro front back hparts hne
    rcases List.eq_nil_or_concat back with rfl | ⟨most, final, rfl⟩
    · rw [List.append_nil] at hparts
      rwa [← hparts]
    · rw [List.concat_eq_append, ← List.append_assoc] at hparts
      exact h.last front most (List.append_inj_left' hparts rfl) hne

/-! ### One step -/

/-- The step neither fails at the id nor writes one of the two keys from outside.  The time may fail
to be read and to be written. -/
def SparesId : Step → Prop
  | .report _ w => visitorIdKey ∉ w.faults.reads ∧ visitorIdKey ∉ w.faults.writes
  | .set key _ _ => key ≠ visitorIdKey ∧ key ≠ lastReportKey
  | .get _ _ | .reopen => True

/-- There is no time of a report without an id. -/
def Accompanied (store : σ) : Prop :=
  get? store visitorIdKey = none → get? store lastReportKey = none

theorem Bare.accompanied {store : σ} (h : Bare store) : Accompanied store :=
  fun _ => h lastReportKey

/-- A report finds an id to answer with, or collects one, or fails. -/
theorem report_ne_none {store : σ} (h : Accompanied store) {force : Bool} {w : World}
    (hw : SparesId (.report force w)) : (report interval force w store).result ≠ .ok none := by
  rcases report_cases interval force w store with ⟨hidle, ho⟩ | ⟨-, fault, -, ho⟩ | ⟨-, id, -, ho⟩
  · rw [ho, read_of_not_mem hw.1]
    intro hnone
    have hmissing : get? store visitorIdKey = none := Except.ok.inj hnone
    have htime : isDue w.now (get? store lastReportKey) interval = true := by
      rw [h hmissing]
      rfl
    have hcollects : collects interval force w store = true :=
      collects_eq_true_iff.mpr (.inr (.inr htime))
    rw [hidle] at hcollects
    cases hcollects
  · rw [ho]
    simp
  · rw [ho]
    simp

variable [LawfulStore σ]

/-- What is kept after a step: the id that it collected, or else what was kept before, or nothing at
all because the store came back empty. -/
theorem get?_visitorId_step (hσ : WholeOrNothing σ) {store : σ} (h : Ready store) {s : Step}
    (hs : SparesId s) :
    Bare (step interval store s).2.2 ∨
      get? (step interval store s).2.2 visitorIdKey
        = (collectedId? s (step interval store s).2.1).or (get? store visitorIdKey) := by
  cases s with
  | report force w =>
      refine .inr ?_
      show get? (report interval force w store).store visitorIdKey
        = (collectedId? (.report force w) (report interval force w store).acts).or _
      rcases report_cases interval force w store with
        ⟨-, ho⟩ | ⟨-, fault, hfault, ho⟩ | ⟨-, id, hid, ho⟩
      · rw [ho]
        rfl
      · rw [ho]
        simp [collectedId?, hfault, Except.toOption]
      · rw [ho, get?_keep_visitorId h, if_neg hs.2]
        simp [collectedId?, hid, Except.toOption]
  | set key value faults =>
      refine .inr ?_
      rw [store_step_set, get?_write_ne hs.1.symm]
      rfl
  | get key faults =>
      refine .inr ?_
      rw [store_step_get]
      rfl
  | reopen =>
      rcases hσ store with hwhole | hnothing
      · exact .inr (hwhole visitorIdKey)
      · exact .inl hnothing

theorem accompanied_step (hσ : WholeOrNothing σ) {store : σ} (h : Ready store)
    (hacc : Accompanied store) {s : Step} (hs : SparesId s) :
    Accompanied (step interval store s).2.2 := by
  cases s with
  | report force w =>
      show Accompanied (report interval force w store).store
      rcases report_cases interval force w store with ⟨-, ho⟩ | ⟨-, fault, -, ho⟩ | ⟨-, id, -, ho⟩
      · rw [ho]
        exact hacc
      · rw [ho]
        exact hacc
      · rw [ho]
        intro hmissing
        rw [get?_keep_visitorId h, if_neg hs.2] at hmissing
        cases hmissing
  | set key value faults =>
      rw [store_step_set]
      unfold Accompanied
      rw [get?_write_ne hs.1.symm, get?_write_ne hs.2.symm]
      exact hacc
  | get key faults =>
      rw [store_step_get]
      exact hacc
  | reopen =>
      rcases hσ store with hwhole | hnothing
      · intro hmissing
        rw [store_step_reopen, hwhole] at hmissing ⊢
        exact hacc hmissing
      · exact Bare.accompanied hnothing

/-! ### A run -/

theorem accompanied_after (hσ : WholeOrNothing σ) {steps : List Step}
    (hs : ∀ s ∈ steps, SparesId s) :
    ∀ {store : σ}, Ready store → Accompanied store →
      Accompanied (after interval store steps) := by
  induction steps with
  | nil => intro store _ hacc; exact hacc
  | cons s rest ih =>
      intro store h hacc
      exact ih (fun s hin => hs s (by simp [hin])) (ready_step h s)
        (accompanied_step hσ h hacc (hs s (by simp)))

/--
**The id that is kept is the last one collected since the store was empty.**  The induction goes
along the run from its start, as the points since the store was last empty end with the last step.
-/
theorem get?_visitorId_after (hσ : WholeOrNothing σ) {store : σ} (h : Ready store)
    (hempty : Bare store) {steps : List Step} (hs : ∀ s ∈ steps, SparesId s) :
    ∃ old recent, history interval store steps = old ++ recent ∧
      SinceEmpty interval store old recent ∧
      get? (after interval store steps) visitorIdKey = lastCollected? recent := by
  induction steps using List.reverseRecOn with
  | nil => exact ⟨[], [], rfl, ⟨hempty, by simp⟩, hempty visitorIdKey⟩
  | append_singleton earlier s ih =>
      obtain ⟨old, recent, hhistory, hsince, hkept⟩ := ih fun s hin => hs s (by simp [hin])
      have hstore : after interval store (earlier ++ [s])
          = (step interval (after interval store earlier) s).2.2 := after_append
      have hsteps : (history interval store (earlier ++ [s])).map Prod.fst = earlier ++ [s] :=
        map_fst_history
      have hsplit : history interval store (earlier ++ [s])
          = old ++ (recent ++ [(s, seen interval (after interval store earlier) s)]) := by
        rw [history_append, hhistory, List.append_assoc]
        rfl
      by_cases hbare : Bare (after interval store (earlier ++ [s]))
      · exact ⟨history interval store (earlier ++ [s]), [], by simp,
          ⟨by rwa [hsteps], by simp⟩, hbare visitorIdKey⟩
      · refine ⟨_, _, hsplit, hsince.snoc (by rwa [← hsplit, hsteps]), ?_⟩
        rw [lastCollected?_snoc, ← hkept, hstore]
        exact (get?_visitorId_step hσ (ready_after h) (hs s (by simp))).resolve_left
          (by rwa [← hstore])

/--
**No time is kept without an id, and the id is the last one collected.**  At any point of any run
from an empty store: if a time of a report is stored then so is an id, the stored id is the one
collected last since the store was last empty, and no report answers that there is none.
-/
theorem id_accompanies_time (hσ : WholeOrNothing σ) {store : σ} (hready : Ready store)
    (hempty : Bare store) {steps : List Step} (hspares : ∀ s ∈ steps, SparesId s)
    {past future : List (Step × Trace)} {s : Step} {trace : Trace}
    (hpoint : steps.zip (run interval store steps) = past ++ (s, trace) :: future) :
    (trace.lastReport.isSome → trace.visitorId.isSome) ∧
      (∃ old recent, past ++ [(s, trace)] = old ++ recent ∧
        SinceEmpty interval store old recent ∧ trace.visitorId = lastCollected? recent) ∧
      trace.answer ≠ .reported (.ok none) := by
  obtain ⟨earlier, later, hsteps, rfl, rfl⟩ := history_split hpoint
  have hpresent : ∀ t ∈ earlier ++ [s], SparesId t := by
    intro t hin
    refine hspares t ?_
    rw [hsteps, List.append_cons]
    exact List.mem_append_left later hin
  have hpast : ∀ t ∈ earlier, SparesId t := fun t hin => hpresent t (List.mem_append_left [s] hin)
  have hstore : after interval store (earlier ++ [s])
      = (step interval (after interval store earlier) s).2.2 := after_append
  refine ⟨?_, ?_, ?_⟩
  · have hacc : Accompanied (after interval store (earlier ++ [s])) :=
      accompanied_after hσ hpresent hready (Bare.accompanied hempty)
    rw [hstore] at hacc
    intro htime
    rw [Option.isSome_iff_ne_none] at htime ⊢
    exact fun hmissing => htime (hacc hmissing)
  · obtain ⟨old, recent, hhistory, hsince, hkept⟩ :=
      get?_visitorId_after hσ hready hempty hpresent
    rw [history_append] at hhistory
    rw [hstore] at hkept
    exact ⟨old, recent, hhistory, hsince, hkept⟩
  · have hacc : Accompanied (after interval store earlier) :=
      accompanied_after hσ hpast hready (Bare.accompanied hempty)
    cases s with
    | report force w =>
        intro hnone
        exact report_ne_none hacc (hpresent _ (by simp)) (Answer.reported.inj hnone)
    | set key value faults =>
        simp only [seen, step]
        split <;> simp
    | get key faults =>
        simp only [seen, step]
        split <;> simp
    | reopen => simp [seen, step]

/-- A world in which the collection and the upload work, with the given faults of the store. -/
def uploadingWorld (id : String) (now : Int64) (faults : Faults) : World :=
  { now, later := now, collected := .ok id, upload := fun _ => .ok (), faults }

/-- A report, one that is not due, a restart that loses everything, and a report that cannot write
its time. -/
def forgetfulRun : List Step :=
  [.report false (uploadingWorld "old" 0 {}), .report false (uploadingWorld "other" 2000 {}),
    .reopen, .report false (uploadingWorld "new" 3000 { writes := [lastReportKey] })]

theorem id_accompanies_time_forgetful :
    WholeOrNothing MemoryStore ∧ Ready (fresh : MemoryStore) ∧ Bare (fresh : MemoryStore) ∧
      (∀ s ∈ forgetfulRun, SparesId s) ∧
      ∃ past final trace,
        forgetfulRun.zip (run 3600000 (fresh : MemoryStore) forgetfulRun)
          = past ++ (final, trace) :: [] ∧
        trace.visitorId = some "new" ∧ trace.lastReport = none ∧
        (∃ old recent, past ++ [(final, trace)] = old ++ recent ∧
          SinceEmpty 3600000 (fresh : MemoryStore) old recent ∧
          trace.visitorId = lastCollected? recent) ∧
        trace.answer ≠ .reported (.ok none) := by
  have hσ : WholeOrNothing MemoryStore := MemoryStore.wholeOrNothing
  have hready : Ready (fresh : MemoryStore) := trivial
  have hempty : Bare (fresh : MemoryStore) := fun _ => rfl
  have hspares : ∀ s ∈ forgetfulRun, SparesId s := by
    intro s hs
    simp only [forgetfulRun, List.mem_cons, List.not_mem_nil, or_false] at hs
    rcases hs with rfl | rfl | rfl | rfl
    · exact ⟨by decide, by decide⟩
    · exact ⟨by decide, by decide⟩
    · trivial
    · exact ⟨by decide, by decide⟩
  have hpoint : forgetfulRun.zip (run 3600000 (fresh : MemoryStore) forgetfulRun)
      = history 3600000 (fresh : MemoryStore) (forgetfulRun.take 3)
        ++ (.report false (uploadingWorld "new" 3000 { writes := [lastReportKey] }),
            seen 3600000 (after 3600000 (fresh : MemoryStore) (forgetfulRun.take 3))
              (.report false (uploadingWorld "new" 3000 { writes := [lastReportKey] }))) :: [] :=
    rfl
  obtain ⟨-, hlast, hanswer⟩ := id_accompanies_time hσ hready hempty hspares hpoint
  exact ⟨hσ, hready, hempty, hspares, _, _, _, hpoint, by decide +kernel, by decide +kernel, hlast,
    hanswer⟩

end HealthBoard.Throttle
