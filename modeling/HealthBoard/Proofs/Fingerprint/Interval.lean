/-
At most one report per interval, unless somebody insists.

The throttle has no memory but a text in the store.  As long as nobody else writes that text and
it can be read and written, it is the decimal of the clock reading after the last upload that
worked: `get?_lastReport_after` says so for every run, with whatever else happens in between.  A
call that is not forced and does anything was due, so the decimal was read back, and clamping the
time passed cannot have made a short time look long.
-/
import HealthBoard.Proofs.Decimal
import HealthBoard.Proofs.Fingerprint.Run

namespace HealthBoard.Throttle

open KeyValueStore (get? fresh)
open LawfulStore (Ready)

variable {σ : Type} [KeyValueStore σ] {interval : Int64}

/-! ### The last upload of a run -/

/-- The clock reading after the upload of a step, if there was one and it worked. -/
def uploadTime? : Step → List Act → Option Int64
  | .report _ w, acts => acts.findSome? fun act =>
    match act with
    | .collect => none
    | .report id =>
      match w.upload id with
      | .ok () => some w.later
      | .error _ => none
  | _, _ => none

/-- The clock reading after the last upload that worked, if any did. -/
def lastUpload? (past : List (Step × Trace)) : Option Int64 :=
  (past.filterMap fun point => uploadTime? point.1 point.2.acts).getLast?

@[simp] theorem lastUpload?_nil : lastUpload? [] = none := rfl

theorem lastUpload?_cons (point : Step × Trace) (rest : List (Step × Trace)) :
    lastUpload? (point :: rest)
      = (lastUpload? rest).or (uploadTime? point.1 point.2.acts) := by
  unfold lastUpload?
  rw [List.filterMap_cons]
  cases uploadTime? point.1 point.2.acts with
  | none => simp
  | some t => simp [List.getLast?_cons]

/-! ### Steps that leave the time of the last report alone -/

/-- A call that can read and write the time, or another step that does not change it. -/
def Spares (σ : Type) [KeyValueStore σ] : Step → Prop
  | .report _ w => lastReportKey ∉ w.faults.reads ∧ lastReportKey ∉ w.faults.writes
  | .set key _ _ => key ≠ lastReportKey
  | .get _ _ => True
  | .reopen => Persistent σ

variable [LawfulStore σ]

/-- What is stored after a step: the time of its upload, or else what was stored before. -/
theorem get?_lastReport_step {store : σ} (h : Ready store) {s : Step} (hs : Spares σ s) :
    get? (step interval store s).2.2 lastReportKey
      = ((uploadTime? s (step interval store s).2.1).map fun t => Decimal.text t.toInt).or
        (get? store lastReportKey) := by
  cases s with
  | report force w =>
      show get? (report interval force w store).store lastReportKey
        = ((uploadTime? (.report force w) (report interval force w store).acts).map _).or _
      rcases report_cases interval force w store with ⟨-, ho⟩ | ⟨-, fault, -, ho⟩ | ⟨-, id, -, ho⟩
      · rw [ho]
        rfl
      · rw [ho]
        rfl
      · rw [ho]
        show get? (keep w id store) lastReportKey = _
        cases hup : w.upload id with
        | ok u =>
            rw [get?_keep_lastReport h hup hs.2]
            simp [uploadTime?, hup]
        | error fault =>
            rw [get?_keep_lastReport_of_not (fun hc => by simp [hup] at hc)]
            simp [uploadTime?, hup]
  | set key value faults =>
      rw [store_step_set, get?_write_ne (Ne.symm hs)]
      rfl
  | get key faults =>
      rw [store_step_get]
      rfl
  | reopen => exact hs store lastReportKey

/--
**The stored time is the decimal of the last upload's.**  The induction is on the steps, from
whatever store the run starts with; a run without an upload that worked leaves the time alone.
-/
theorem get?_lastReport_after {steps : List Step} (hs : ∀ s ∈ steps, Spares σ s) :
    ∀ {store : σ}, Ready store → get? (after interval store steps) lastReportKey
      = ((lastUpload? (history interval store steps)).map fun t => Decimal.text t.toInt).or
        (get? store lastReportKey) := by
  induction steps with
  | nil => intro store _; rfl
  | cons s rest ih =>
      intro store h
      rw [after, ih (fun s hin => hs s (by simp [hin])) (ready_step h s),
        get?_lastReport_step h (hs s (by simp)), history_cons, lastUpload?_cons]
      unfold seen
      cases lastUpload? (history interval (step interval store s).2.2 rest) with
      | none => simp
      | some t => simp

/-! ### A report that is due -/

omit [LawfulStore σ] in
/-- A call that is not forced does something only if it is due. -/
theorem isDue_of_acts {store : σ} {w : World} (hread : lastReportKey ∉ w.faults.reads)
    (h : (report interval false w store).acts ≠ []) :
    isDue w.now (get? store lastReportKey) interval = true := by
  rcases report_cases interval false w store with ⟨-, ho⟩ | ⟨hcol, -⟩ | ⟨hcol, -⟩
  · rw [ho] at h
    exact absurd rfl h
  · exact ((collects_eq_true_iff.mp hcol).resolve_left (by simp)).resolve_left hread
  · exact ((collects_eq_true_iff.mp hcol).resolve_left (by simp)).resolve_left hread

/-- What is due after a stored time is due by exact arithmetic. -/
theorem isDue_text {now last : Int64} (hmin : leastInteger < interval.toInt) :
    isDue now (some (Decimal.text last.toInt)) interval = true ↔
      interval.toInt ≤ now.toInt - last.toInt := by
  have hback : (some (Decimal.text last.toInt)).bind
      (fun s => (Decimal.readInteger (Text.trim s)).toOption) = some last := by
    rw [Option.bind_some, Decimal.trim_text, Decimal.readInteger_text]
    rfl
  unfold isDue
  rw [hback]
  show decide (interval.toInt ≤ (clamp (now.toInt - last.toInt)).toInt) = true ↔ _
  rw [decide_eq_true_iff, le_toInt_clamp_iff hmin]

/--
**No report within the interval.**  Take any point of any run at which a call that is not forced
collects or uploads.  If an upload before it worked, then at least the interval lies between the
clock after the last such upload and the clock at the start of the call.
-/
theorem unforced_report_waits (hmin : leastInteger < interval.toInt) {store : σ}
    (hready : Ready store) {steps : List Step} (hspares : ∀ s ∈ steps, Spares σ s)
    {past future : List (Step × Trace)} {w : World} {trace : Trace}
    (hpoint : steps.zip (run interval store steps) = past ++ (.report false w, trace) :: future)
    (hacts : trace.acts ≠ []) {last : Int64} (hlast : lastUpload? past = some last) :
    interval.toInt ≤ w.now.toInt - last.toInt := by
  obtain ⟨earlier, later, hsteps, hpast, htrace⟩ := history_split hpoint
  have hcall : Spares σ (.report false w) := hspares _ (by simp [hsteps])
  have hstored : get? (after interval store earlier) lastReportKey
      = some (Decimal.text last.toInt) := by
    rw [get?_lastReport_after (fun s hin => hspares s (by simp [hsteps, hin])) hready, ← hpast,
      hlast]
    rfl
  have hdue : isDue w.now (get? (after interval store earlier) lastReportKey) interval = true := by
    refine isDue_of_acts hcall.1 ?_
    rw [htrace] at hacts
    exact hacts
  rw [hstored] at hdue
  exact (isDue_text hmin).mp hdue

/-- A world in which everything works, at a time at the start and a time after the upload. -/
def workingWorld (now later : Int64) : World :=
  { now, later, collected := .ok "id", upload := fun _ => .ok () }

/-- A forced report, a restart, another key set, and a report that had to wait an hour. -/
def patientRun : List Step :=
  [.report true (workingWorld 0 1000), .reopen, .set "other" "5" {},
    .report false (workingWorld 3601000 3601500)]

theorem unforced_report_waits_restart :
    leastInteger < (3600000 : Int64).toInt ∧ Ready (fresh : Database) ∧
      (∀ s ∈ patientRun, Spares Database s) ∧
      ∃ (past : List (Step × Trace)) (trace : Trace),
        patientRun.zip (run 3600000 (fresh : Database) patientRun)
          = past ++ (.report false (workingWorld 3601000 3601500), trace) :: [] ∧
        trace.acts ≠ [] ∧ lastUpload? past = some 1000 ∧
        (3600000 : Int64).toInt ≤ (3601000 : Int64).toInt - (1000 : Int64).toInt := by
  have hmin : leastInteger < (3600000 : Int64).toInt := by decide
  have hready : Ready (fresh : Database) := rfl
  have hspares : ∀ s ∈ patientRun, Spares Database s := by
    intro s hs
    simp only [patientRun, List.mem_cons, List.not_mem_nil, or_false] at hs
    rcases hs with rfl | rfl | rfl | rfl
    · exact ⟨by simp [workingWorld], by simp [workingWorld]⟩
    · exact Database.persistent
    · show "other" ≠ lastReportKey
      decide
    · exact ⟨by simp [workingWorld], by simp [workingWorld]⟩
  have hpoint : patientRun.zip (run 3600000 (fresh : Database) patientRun)
      = history 3600000 (fresh : Database) (patientRun.take 3)
        ++ (.report false (workingWorld 3601000 3601500),
            seen 3600000 (after 3600000 (fresh : Database) (patientRun.take 3))
              (.report false (workingWorld 3601000 3601500))) :: [] := rfl
  have hacts : (seen 3600000 (after 3600000 (fresh : Database) (patientRun.take 3))
      (.report false (workingWorld 3601000 3601500))).acts ≠ [] := by decide +kernel
  have hlast : lastUpload? (history 3600000 (fresh : Database) (patientRun.take 3))
      = some 1000 := rfl
  exact ⟨hmin, hready, hspares, _, _, hpoint, hacts, hlast,
    unforced_report_waits hmin hready hspares hpoint hacts hlast⟩

end HealthBoard.Throttle
