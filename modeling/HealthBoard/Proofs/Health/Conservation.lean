/-
No slice is lost or counted twice on the way from the records to the summary.

The summary adds up models, a model adds up hours, and an hour is looked up among the records.  So
its totals are a double sum over a grid of names and hours.  The records that stand have each its
own place in the grid or none, which turns the double sum into a sum over the records themselves:
`sum_grid` proves that for any grid, by going through the records from the last to the first.  What
remains is to say which places the grid of a window has.
-/
import HealthBoard.Health.Summary
import HealthBoard.Proofs.Health.Rollup
import HealthBoard.Proofs.Health.Sum
import HealthBoard.Proofs.Health.Window
import Mathlib.Algebra.BigOperators.Group.Finset.Sigma
import Mathlib.Algebra.BigOperators.Group.Finset.Piecewise
import Mathlib.Algebra.Order.BigOperators.Group.List
import Mathlib.Algebra.Ring.Int.Defs

namespace HealthBoard

namespace Rollup

/-- What a place of the grid adds to a sum: the count of the record shown there, if there is one. -/
def placeCount (count : HourlyRecord → Int) (records : List HourlyRecord)
    (place : String × Int64) : Int :=
  ((shown? records place.1 place.2).map count).getD 0

/-! ### A grid of names and hours -/

/-- A further record in front adds its count at its own place, unless it is superseded. -/
theorem placeCount_cons (count : HourlyRecord → Int) {r : HourlyRecord}
    {rest : List HourlyRecord} (h : key r ∉ rest.map key) (place : String × Int64) :
    placeCount count (r :: rest) place = placeCount count rest place
      + if place = key r then (if r.hasSlices then count r else 0) else 0 := by
  unfold placeCount
  by_cases hp : place = key r
  · subst hp
    have hnone : shown? rest (key r).1 (key r).2 = none := shown?_eq_none_of_not_mem h
    have hself : shown? (r :: rest) (key r).1 (key r).2 = if r.hasSlices then some r else none :=
      shown?_cons_self h
    rw [if_pos rfl, hnone, hself]
    split <;> simp
  · rw [if_neg hp, shown?_cons_of_ne (fun hc => hp hc.symm), Int.add_zero]

/--
**The places of a grid add up to the records that stand there.**  The induction is on the records:
a superseded one changes neither side, and any other adds its own count to both if the grid has its
place and it has slices.
-/
theorem sum_grid (count : HourlyRecord → Int) (records : List HourlyRecord)
    (grid : Finset (String × Int64)) :
    ∑ place ∈ grid, placeCount count records place
      = (((standing records).filter fun r => key r ∈ grid ∧ r.hasSlices).map count).sum := by
  induction records with
  | nil => exact Finset.sum_eq_zero fun _ _ => rfl
  | cons r rest ih =>
      by_cases h : key r ∈ rest.map key
      · have hsame : ∀ place, placeCount count (r :: rest) place = placeCount count rest place := by
          intro place
          unfold placeCount
          rw [shown?_cons_of_mem h]
        have hstand : standing (r :: rest) = standing rest := by
          rw [standing, if_pos h]
        rw [Finset.sum_congr rfl fun place _ => hsame place, hstand]
        exact ih
      · have hstand : standing (r :: rest) = r :: standing rest := by
          rw [standing, if_neg h]
        rw [Finset.sum_congr rfl fun place _ => placeCount_cons count h place,
          Finset.sum_add_distrib, ih, Finset.sum_ite_eq', hstand, List.filter_cons]
        by_cases hin : key r ∈ grid <;> by_cases hs : r.hasSlices = true
        · simp [hin, hs, Int.add_comm]
        · simp [hin, hs]
        · simp [hin]
        · simp [hin]

/-! ### The totals of a model and of all models -/

/-- What a model adds up is what its hours have in the grid. -/
theorem exactTotal_counts (count : HourlyRecord → Int64) (records : List HourlyRecord)
    (hours : List Int64) (name : String) :
    exactTotal (counts count records hours name)
      = (hours.map fun hour => placeCount (fun r => (count r).toInt) records (name, hour)).sum := by
  unfold exactTotal counts
  rw [List.map_map]
  induction hours with
  | nil => rfl
  | cons hour rest ih =>
      rw [List.map_cons, List.sum_cons, ← ih, List.filterMap_cons]
      unfold placeCount
      cases shown? records name hour with
      | none => simp
      | some r => simp

/-- The totals of the models of a rollup add up to what is left of the sum over its grid. -/
theorem total_models (count : HourlyRecord → Int64) (records : List HourlyRecord)
    {hours : List Int64} (hnodup : hours.Nodup) {figure : ModelRollup → Int64}
    (hfigure : ∀ name, figure (ofModel records hours name)
      = total (counts count records hours name)) :
    total ((rollup records hours).map figure)
      = Int64.ofInt (∑ place ∈ (modelNames records).toFinset ×ˢ hours.toFinset,
          placeCount (fun r => (count r).toInt) records place) := by
  have hperm : ((rollup records hours).map figure).Perm
      (((modelNames records).map (ofModel records hours)).map figure) :=
    (List.mergeSort_perm _ _).map figure
  have hmodels : ((modelNames records).map (ofModel records hours)).map figure
      = (modelNames records).map fun name =>
          Int64.ofInt (exactTotal (counts count records hours name)) := by
    rw [List.map_map]
    refine List.map_congr_left fun name _ => ?_
    rw [Function.comp_apply, hfigure, total_eq_ofInt]
  rw [total_perm hperm, hmodels, total_map_ofInt, Finset.sum_product,
    List.sum_toFinset _ (nodup_modelNames records)]
  congr 2
  refine List.map_congr_left fun name _ => ?_
  rw [exactTotal_counts, List.sum_toFinset _ hnodup]

/--
The records that count in a window: no later one has their model and hour, the model has a name,
the hour is one of the window, and there are slices.
-/
def counted (w : HourWindow) (records : List HourlyRecord) : List HourlyRecord :=
  (standing records).filter fun r => r.modelName ≠ "" ∧ w.contains r.hourStart ∧
    r.hourStart.toInt % hourSeconds = 0 ∧ 0 < r.totalSlices.toInt

/-- The grid of a window has the places of the records that count, and of no others. -/
theorem filter_grid (w : HourWindow) (records : List HourlyRecord) :
    (standing records).filter (fun r =>
      key r ∈ (modelNames records).toFinset ×ˢ w.hours.toFinset ∧ r.hasSlices)
      = counted w records := by
  unfold counted
  refine List.filter_congr fun r hr => ?_
  have hrec : r ∈ records := standing_subset records hr
  have hname : r.modelName ∈ modelNames records ↔ r.modelName ≠ "" := by
    rw [mem_modelNames]
    exact ⟨And.left, fun hne => ⟨hne, r, hrec, rfl⟩⟩
  unfold key HourlyRecord.hasSlices
  rw [decide_eq_decide, Finset.mem_product, List.mem_toFinset, List.mem_toFinset, hname,
    HourWindow.mem_hours, decide_eq_true_iff]
  tauto

/-! ### Levels -/

/-- Every model is healthy, or at the warning level, or neither. -/
theorem length_eq_counts (levels : List HealthLevel) :
    levels.length = levels.countP HealthLevel.isHealthy + levels.countP (· == .warning)
      + levels.countP fun l => !l.isHealthy && l != .warning := by
  induction levels with
  | nil => rfl
  | cons l rest ih =>
      rw [List.length_cons, ih]
      cases l <;> simp +arith [List.countP_cons, HealthLevel.isHealthy]

end Rollup

open Rollup

/--
**The summary counts every record once.**  Its totals are the sums over the records that count in
the window, in 64 bits and so exactly if these fit, and its rate is made from these sums; its models
are the names that occur, and each is at one of the three kinds of levels.
-/
theorem summarize_rollup (records : List HourlyRecord) (w : HourWindow)
    (thresholds : ThresholdSet) :
    let s := summarize (rollup records w.hours) thresholds
    let success := ((counted w records).map fun r => r.successSlices.toInt).sum
    let slices := ((counted w records).map fun r => r.totalSlices.toInt).sum
    s.totalSuccessSlices = Int64.ofInt success ∧ s.totalSlices = Int64.ofInt slices ∧
      (Fits success → s.totalSuccessSlices.toInt = success) ∧
      (Fits slices → s.totalSlices.toInt = slices) ∧
      s.overallRate = weightedRate (Int64.ofInt success) (Int64.ofInt slices) ∧
      s.totalModels = ((records.map (·.modelName)).toFinset.erase "").card ∧
      s.totalModels = s.healthyModels + s.warningModels + s.criticalModels := by
  intro s success slices
  have hsuccess : s.totalSuccessSlices = Int64.ofInt success := by
    show total ((rollup records w.hours).map (·.totalSuccess)) = Int64.ofInt success
    rw [total_models (·.successSlices) records (HourWindow.nodup_hours w) fun _ => rfl, sum_grid,
      filter_grid]
  have hslices : s.totalSlices = Int64.ofInt slices := by
    show total ((rollup records w.hours).map (·.totalSlices)) = Int64.ofInt slices
    rw [total_models (·.totalSlices) records (HourWindow.nodup_hours w) fun _ => rfl, sum_grid,
      filter_grid]
  have hnames : (modelNames records).toFinset
      = (records.map (·.modelName)).toFinset.erase "" := by
    ext name
    rw [List.mem_toFinset, mem_modelNames, Finset.mem_erase, List.mem_toFinset, List.mem_map]
  refine ⟨hsuccess, hslices, fun h => by rw [hsuccess, toInt_ofInt_of_fits h],
    fun h => by rw [hslices, toInt_ofInt_of_fits h], ?_, ?_, ?_⟩
  · rw [← hsuccess, ← hslices]
    rfl
  · show (rollup records w.hours).length = _
    unfold rollup ranked
    rw [List.length_mergeSort, List.length_map, ← hnames,
      List.toFinset_card_of_nodup (nodup_modelNames records)]
  · have h := length_eq_counts
      ((rollup records w.hours).map fun m => thresholds.classify m.averageRate)
    rw [List.length_map] at h
    exact h

/-- Some records that count and some that do not: one is superseded, one takes another back, one has
no name, one is off the hour and one is before the window. -/
def crowdedRecords : List HourlyRecord :=
  [⟨"fast", 0, 9, 9, 90, 0, 90, 1⟩, ⟨"slow", 3600, 1, 4, 10, 30, 40, 0.25⟩,
    ⟨"slow", 3600, 0, 0, 0, 0, 0, 0⟩, ⟨"", 0, 5, 5, 50, 0, 50, 1⟩, ⟨"slow", 10, 5, 5, 50, 0, 50, 1⟩,
    ⟨"old", -3600, 7, 7, 70, 0, 70, 1⟩, ⟨"fast", 0, 3, 4, 30, 10, 40, 0.75⟩]

theorem summarize_rollup_crowded :
    ∃ w, HourWindow.between 0 7200 = .ok w ∧
      let s := summarize (rollup crowdedRecords w.hours) .forPublic
      s.totalSuccessSlices.toInt = 3 ∧ s.totalSlices.toInt = 4 ∧
        s.overallRate = weightedRate 3 4 ∧ s.totalModels = 3 ∧
        s.healthyModels + s.warningModels + s.criticalModels = 3 := by
  refine ⟨_, rfl, ?_⟩
  intro s
  obtain ⟨-, -, hsuccess, hslices, hrate, hmodels, hlevels⟩ :=
    summarize_rollup crowdedRecords ⟨0, 7200, by decide, by decide, by decide, by decide⟩ .forPublic
  have hthree : s.totalModels = 3 := hmodels.trans (by decide)
  exact ⟨(hsuccess (by decide)).trans (by decide), (hslices (by decide)).trans (by decide),
    hrate.trans (congrArg₂ weightedRate (by decide) (by decide)), hthree,
    hlevels.symm.trans hthree⟩

end HealthBoard
