/-
A report that failed is made up for by the next call.

Whether a call is due hangs on the stored time alone, and only an upload that worked changes that
time.  So a store from which a call is due stays one through any steps among which no upload works:
`isDue_step` is that for one step and `isDue_after` for any number of them.  Nothing has to be known
of the stored text, which may be no number at all, nor of how often the store is opened anew: if it
comes back empty, a call is due for that reason.

That the clock moves on takes nothing away, because the time passed is clamped and clamping keeps
the order.
-/
import HealthBoard.Proofs.Fingerprint.Interval

namespace HealthBoard.Throttle

open KeyValueStore (get? fresh)

variable {σ : Type} [KeyValueStore σ] {interval : Int64}

/-! ### What is due stays due -/

/-- At a later time by the clock no less is due. -/
theorem isDue_mono {now later : Int64} (hle : now.toInt ≤ later.toInt) {stored : Option String}
    (h : isDue now stored interval = true) : isDue later stored interval = true := by
  unfold isDue at h ⊢
  split at h
  · rename_i last _
    rw [decide_eq_true_iff] at h ⊢
    exact Int.le_trans h (toInt_clamp_mono (by omega))
  · rfl

/-- The step can read the time of the last report, and only a report may write it.  That write may
fail, and so may all else. -/
def ReadsTime : Step → Prop
  | .report _ w => lastReportKey ∉ w.faults.reads
  | .set key _ _ => key ≠ lastReportKey
  | .get _ _ | .reopen => True

/-- No upload works at a point of a history. -/
def Quiet (point : Step × Trace) : Prop := uploadTime? point.1 point.2.acts = none

instance (point : Step × Trace) : Decidable (Quiet point) :=
  inferInstanceAs (Decidable (uploadTime? point.1 point.2.acts = none))

variable [LawfulStore σ]

/-- An upload that does not work leaves the time as it was. -/
theorem get?_lastReport_of_quiet {store : σ} {force : Bool} {w : World}
    (hquiet : Quiet (.report force w, seen interval store (.report force w))) :
    get? (report interval force w store).store lastReportKey = get? store lastReportKey := by
  rcases report_cases interval force w store with ⟨-, ho⟩ | ⟨-, fault, -, ho⟩ | ⟨-, id, -, ho⟩
  · rw [ho]
  · rw [ho]
  · have hacts : (seen interval store (.report force w)).acts = [.collect, .report id] :=
      congrArg Outcome.acts ho
    rw [ho]
    refine get?_keep_lastReport_of_not fun hwrites => ?_
    have htime : uploadTime? (.report force w) [.collect, .report id] = some w.later := by
      simp [uploadTime?, hwrites.1]
    unfold Quiet at hquiet
    rw [hacts, htime] at hquiet
    cases hquiet

/-- **A step without an upload that works leaves due what was due.** -/
theorem isDue_step (hσ : WholeOrNothing σ) {store : σ} {s : Step} (hs : ReadsTime s)
    (hquiet : Quiet (s, seen interval store s)) {now : Int64}
    (hdue : isDue now (get? store lastReportKey) interval = true) :
    isDue now (get? (step interval store s).2.2 lastReportKey) interval = true := by
  cases s with
  | report force w =>
      rw [store_step_report, get?_lastReport_of_quiet hquiet]
      exact hdue
  | set key value faults =>
      rw [store_step_set, get?_write_ne (Ne.symm hs)]
      exact hdue
  | get key faults =>
      rw [store_step_get]
      exact hdue
  | reopen =>
      rw [store_step_reopen]
      rcases hσ store with hwhole | hnothing
      · rw [hwhole]
        exact hdue
      · rw [hnothing lastReportKey]
        rfl

theorem isDue_after (hσ : WholeOrNothing σ) {now : Int64} {steps : List Step}
    (hs : ∀ s ∈ steps, ReadsTime s) :
    ∀ {store : σ}, (∀ point ∈ history interval store steps, Quiet point) →
      isDue now (get? store lastReportKey) interval = true →
      isDue now (get? (after interval store steps) lastReportKey) interval = true := by
  induction steps with
  | nil => intro store _ hdue; exact hdue
  | cons s rest ih =>
      intro store hquiet hdue
      rw [history_cons, List.forall_mem_cons] at hquiet
      exact ih (fun t ht => hs t (List.mem_cons_of_mem s ht)) hquiet.2
        (isDue_step hσ (hs s List.mem_cons_self) hquiet.1 hdue)

/-! ### A call that fails -/

omit [LawfulStore σ] in
/-- Whatever comes of the collection, a call that collects looks at the machine. -/
theorem collect_mem_acts {store : σ} {force : Bool} {w : World}
    (h : collects interval force w store = true) :
    .collect ∈ (report interval force w store).acts := by
  rcases report_cases interval force w store with ⟨hidle, -⟩ | ⟨-, fault, -, ho⟩ | ⟨-, id, -, ho⟩
  · rw [h] at hidle
    cases hidle
  · rw [ho]
    exact List.mem_cons_self
  · rw [ho]
    exact List.mem_cons_self

/-- The collection fails, or the upload of what was collected does. -/
def World.Fails (w : World) : Prop :=
  (∃ fault, w.collected = .error fault) ∨
    ∃ id fault, w.collected = .ok id ∧ w.upload id = .error fault

omit [LawfulStore σ] in
theorem World.Fails.quiet {w : World} (h : w.Fails) (force : Bool) (store : σ) :
    Quiet (.report force w, seen interval store (.report force w)) := by
  show uploadTime? (.report force w) (report interval force w store).acts = none
  rcases report_cases interval force w store with ⟨-, ho⟩ | ⟨-, fault, -, ho⟩ | ⟨-, id, hid, ho⟩
  · rw [ho]
    rfl
  · rw [ho]
    rfl
  · rw [ho]
    rcases h with ⟨fault, hfault⟩ | ⟨other, fault, hother, hup⟩
    · rw [hid] at hfault
      cases hfault
    · rw [hid] at hother
      cases hother
      simp [uploadTime?, hup]

/--
**A failure never suppresses the retry.**  Take a call of any run that was due by what was stored,
and whose collection or upload failed.  Whatever happens after it, as long as no upload works, a
call that is not forced looks at the machine again if its clock is not behind that of the first.
-/
theorem failure_retried (hσ : WholeOrNothing σ) {store : σ} {steps : List Step}
    (hreads : ∀ s ∈ steps, ReadsTime s) {past between future : List (Step × Trace)}
    {w w' : World} {trace trace' : Trace}
    (hpoint : steps.zip (run interval store steps)
      = past ++ (.report false w, trace) :: (between ++ (.report false w', trace') :: future))
    (hdue : isDue w.now (get? (after interval store (past.map Prod.fst)) lastReportKey) interval
      = true)
    (hfails : w.Fails) (hquiet : ∀ point ∈ between, Quiet point)
    (hlater : w.now.toInt ≤ w'.now.toInt) :
    .collect ∈ trace'.acts := by
  obtain ⟨earlier, rest, rfl, rfl, rfl⟩ := history_split hpoint
  have hrest : history interval (step interval (after interval store earlier) (.report false w)).2.2
      rest = between ++ (.report false w', trace') :: future := by
    have hwhole : history interval store (earlier ++ .report false w :: rest) = _ := hpoint
    rw [history_append, history_cons] at hwhole
    exact (List.cons.inj (List.append_cancel_left hwhole)).2
  obtain ⟨middle, later, rfl, rfl, rfl⟩ := history_split hrest
  rw [map_fst_history] at hdue
  have hcall : ReadsTime (.report false w) := hreads _ (by simp)
  have hcall' : ReadsTime (.report false w') := hreads _ (by simp)
  have hfirst := isDue_step hσ hcall (hfails.quiet false _) hdue
  have hstill := isDue_after hσ (fun s hin => hreads s (by simp [hin])) hquiet hfirst
  exact collect_mem_acts (collects_eq_true_iff.mpr (.inr (.inr (isDue_mono hlater hstill))))

/-- A world in which the gateway refuses every upload. -/
def refusingWorld (now : Int64) : World :=
  { now, later := now, collected := .ok "id", upload := fun _ => .error .transport }

/-- A world in which the machine cannot be identified. -/
def unknownWorld (now : Int64) : World :=
  { refusingWorld now with collected := .error (.unavailable "no id") }

/-- A report that works, and an hour later one that is refused.  Then the database is opened anew,
another key is set, a forced report fails, and the clock goes back and forth. -/
def stubbornRun : List Step :=
  [.report true (workingWorld 0 1000), .report false (refusingWorld 3601000), .reopen,
    .set "other" "5" {}, .report true (unknownWorld 9000000),
    .report false (workingWorld 2000 2000), .report false (workingWorld 3601000 3601500)]

theorem failure_retried_stubborn :
    WholeOrNothing Database ∧ (∀ s ∈ stubbornRun, ReadsTime s) ∧
      ∃ (past between : List (Step × Trace)) (trace trace' : Trace),
        stubbornRun.zip (run 3600000 (fresh : Database) stubbornRun)
          = past ++ (.report false (refusingWorld 3601000), trace) ::
              (between ++ (.report false (workingWorld 3601000 3601500), trace') :: []) ∧
        isDue 3601000 (get? (after 3600000 (fresh : Database) (past.map Prod.fst)) lastReportKey)
          3600000 = true ∧
        (refusingWorld 3601000).Fails ∧ (∀ point ∈ between, Quiet point) ∧
        between.map (·.2.acts) = [[], [], [.collect], []] ∧ .collect ∈ trace'.acts := by
  have hσ : WholeOrNothing Database := Database.persistent.wholeOrNothing
  have hreads : ∀ s ∈ stubbornRun, ReadsTime s := by
    intro s hs
    simp only [stubbornRun, List.mem_cons, List.not_mem_nil, or_false] at hs
    rcases hs with rfl | rfl | rfl | rfl | rfl | rfl | rfl
    · exact List.not_mem_nil
    · exact List.not_mem_nil
    · trivial
    · show "other" ≠ lastReportKey
      decide
    · exact List.not_mem_nil
    · exact List.not_mem_nil
    · exact List.not_mem_nil
  have hpoint : stubbornRun.zip (run 3600000 (fresh : Database) stubbornRun)
      = history 3600000 (fresh : Database) (stubbornRun.take 1)
        ++ (.report false (refusingWorld 3601000),
            seen 3600000 (after 3600000 (fresh : Database) (stubbornRun.take 1))
              (.report false (refusingWorld 3601000)))
          :: (history 3600000 (after 3600000 (fresh : Database) (stubbornRun.take 2))
                ((stubbornRun.drop 2).take 4)
              ++ (.report false (workingWorld 3601000 3601500),
                  seen 3600000 (after 3600000 (fresh : Database) (stubbornRun.take 6))
                    (.report false (workingWorld 3601000 3601500))) :: []) := rfl
  have hdue : isDue 3601000 (get? (after 3600000 (fresh : Database)
      ((history 3600000 (fresh : Database) (stubbornRun.take 1)).map Prod.fst)) lastReportKey)
      3600000 = true := by decide +kernel
  have hfails : (refusingWorld 3601000).Fails := .inr ⟨"id", .transport, rfl, rfl⟩
  have hquiet : ∀ point ∈ history 3600000 (after 3600000 (fresh : Database) (stubbornRun.take 2))
      ((stubbornRun.drop 2).take 4), Quiet point := by decide +kernel
  exact ⟨hσ, hreads, _, _, _, _, hpoint, hdue, hfails, hquiet, by decide +kernel,
    failure_retried hσ hreads hpoint hdue hfails hquiet (Int.le_refl _)⟩

end HealthBoard.Throttle
