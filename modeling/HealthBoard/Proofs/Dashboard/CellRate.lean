/-
The rate that a cell shows.

A record says twice how good its hour was: by its slices, and by a rate that the gateway worked out
and may leave out.  The operators' view goes by the slices.  A cell of the grid goes by the rate
that was reported.  So the two views judge an hour alike under all cut-offs exactly if both rates
count alike, as they do in a record that agrees with itself, and nothing keeps the views from
judging it differently otherwise.
-/
import HealthBoard.Dashboard.View
import HealthBoard.Proofs.Health.Cells
import HealthBoard.Proofs.Health.Level

namespace HealthBoard

theorem weightedRate_zero (slices : Int64) : weightedRate 0 slices = 0 := by
  unfold weightedRate
  by_cases h : 0 < slices.toInt
  · rw [if_pos h]
    exact Double.zero_div_ofInt h
  · rw [if_neg h]

/-- The rate by the slices of a record. -/
def HourlyRecord.sliceRate (r : HourlyRecord) : Float :=
  weightedRate r.successSlices r.totalSlices

/-- The operators' view judges a record that counts slices by these. -/
theorem TrendPoint.level_ofRecord (thresholds : ThresholdSet) {r : HourlyRecord}
    (h : 0 < r.totalSlices.toInt) :
    (ofRecord thresholds r).level = thresholds.classify r.sliceRate := by
  have hslices : r.hasSlices = true := decide_eq_true h
  show thresholds.classify r.rate = _
  unfold HourlyRecord.rate
  rw [if_pos hslices]
  rfl

/-- Whatever the cut-offs, the cell has the level in the grid that its record has in a trend. -/
def ModelRollup.JudgedAlike (m : ModelRollup) (cell : HourCell) (r : HourlyRecord) : Prop :=
  ∀ thresholds, ∀ c ∈ (ModelCard.ofRollup thresholds m).hourly, c.cell = cell →
    c.level = (TrendPoint.ofRecord thresholds r).level

theorem ModelRollup.judgedAlike_iff {m : ModelRollup} {cell : HourCell} {r : HourlyRecord}
    (hcell : cell ∈ m.hourly) (hrate : cell.successRate = r.successRate)
    (hslices : 0 < r.totalSlices.toInt) :
    m.JudgedAlike cell r ↔ ThresholdSet.CountAlike r.successRate r.sliceRate := by
  rw [ThresholdSet.countAlike_iff]
  constructor
  · intro h thresholds
    rw [← TrendPoint.level_ofRecord thresholds hslices, ← hrate]
    exact h thresholds ⟨cell, thresholds.classify cell.successRate⟩ (List.mem_map_of_mem hcell) rfl
  · intro h thresholds c hc heq
    obtain ⟨cell', -, rfl⟩ := List.mem_map.mp hc
    obtain rfl : cell' = cell := heq
    rw [TrendPoint.level_ofRecord thresholds hslices, ← h thresholds, ← hrate]

/--
**A cell with a record shows the rate that was reported, and the operators' view that of the
slices.**  The record is the last one of the cell's model and hour.  The views judge it alike
exactly if both rates count alike.  If they are the same, the cell of an hour without a success
shows zero.
-/
theorem realCell_reported {records : List HourlyRecord} {hours : List Int64} {m : ModelRollup}
    (hm : m ∈ rollup records hours) {cell : HourCell} (hcell : cell ∈ m.hourly)
    (hreal : cell.isFilled = false) :
    ∃ r, (Rollup.filed records (m.modelName, cell.hourStart)).getLast? = some r ∧
      0 < r.totalSlices.toInt ∧ cell.successRate = r.successRate ∧
      (m.JudgedAlike cell r ↔ ThresholdSet.CountAlike r.successRate r.sliceRate) ∧
      (r.successRate = r.sliceRate →
        m.JudgedAlike cell r ∧ (r.successSlices.toInt = 0 → cell.successRate = 0)) := by
  have hshows : cell.Shows records m := Rollup.shows_of_mem_hourly hm hcell
  obtain ⟨r, hlast, hslices⟩ := hshows.real_iff.mp hreal
  have hrate : cell.successRate = r.successRate := (hshows.real hreal r hlast).successRate
  have halike := ModelRollup.judgedAlike_iff hcell hrate hslices
  refine ⟨r, hlast, hslices, hrate, halike, fun hagrees => ⟨?_, fun hzero => ?_⟩⟩
  · rw [halike, hagrees]
    exact .refl _
  · have hnone : r.successSlices = 0 := Int64.toInt_inj.mp hzero
    rw [hrate, hagrees, HourlyRecord.sliceRate, hnone, weightedRate_zero]

/-- The hour that was counted twice is shown by its second record, which agrees with itself. -/
theorem realCell_reported_patchy :
    ∃ m ∈ rollup patchyRecords [0, 3600], ∃ cell ∈ m.hourly, cell.isFilled = false ∧
      cell.hourStart = 0 ∧ cell.successRate = 0.75 ∧
      m.JudgedAlike cell ⟨"fast", 0, 3, 4, 30, 10, 40, 0.75⟩ := by
  have hm : Rollup.ofModel patchyRecords [0, 3600] "fast" ∈ rollup patchyRecords [0, 3600] :=
    Rollup.mem_rollup.mpr ⟨"fast", by decide, rfl⟩
  refine ⟨_, hm, _, List.mem_cons_of_mem _ List.mem_cons_self, rfl, rfl, ?_⟩
  obtain ⟨r, hlast, -, hrate, -, hagree⟩ :=
    realCell_reported hm (List.mem_cons_of_mem _ List.mem_cons_self) rfl
  have hr : some r = some ⟨"fast", 0, 3, 4, 30, 10, 40, 0.75⟩ := hlast.symm
  cases hr
  have hreports : HourlyRecord.sliceRate ⟨"fast", 0, 3, 4, 30, 10, 40, 0.75⟩ = 0.75 := by
    unfold HourlyRecord.sliceRate
    decide +kernel
  exact ⟨hrate, (hagree hreports.symm).1⟩

/-- An hour without a success that was reported as a good one, and a perfect hour of which no rate
was reported. -/
def contradictoryRecords : List HourlyRecord :=
  [⟨"m", 0, 0, 4, 0, 40, 40, 0.9⟩, ⟨"m", 3600, 4, 4, 40, 0, 40, 0⟩]

/-- The views disagree on records that do not agree with themselves. -/
theorem realCell_contradicts :
    ∃ m ∈ rollup contradictoryRecords [0, 3600],
      (∃ c ∈ (ModelCard.ofRollup .forPublic m).hourly, c.cell.isFilled = false ∧
        c.cell.successSlices = 0 ∧ c.cell.successRate ≠ 0 ∧ c.level = .good) ∧
      ∃ c ∈ (ModelCard.ofRollup .forPublic m).hourly, c.cell.isFilled = false ∧
        c.level = .critical ∧
        (TrendPoint.ofRecord .forPublic ⟨"m", 3600, 4, 4, 40, 0, 40, 0⟩).level = .excellent := by
  have hm : Rollup.ofModel contradictoryRecords [0, 3600] "m"
      ∈ rollup contradictoryRecords [0, 3600] := Rollup.mem_rollup.mpr ⟨"m", by decide, rfl⟩
  refine ⟨_, hm, ⟨_, List.mem_cons_of_mem _ List.mem_cons_self, rfl, rfl, ?_, ?_⟩,
    ⟨_, List.mem_cons_self, rfl, ?_, ?_⟩⟩
  · decide +kernel
  · decide +kernel
  · decide +kernel
  · decide +kernel

end HealthBoard
