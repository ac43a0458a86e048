/-
What stands in a model's strip of hours.

A model goes over its hours twice: once to add up its slices, and once to make a cell for each hour.
The rate of a cell without a record is the average that the first pass gave, so the two passes have
to look at the same records.  They do because both ask what is shown for an hour and nothing else.
So a cell can be told from its hour alone: `Shows` says how, by the last record of that model and
hour in the list, and it is the same wherever and however often the hour stands among the hours.
-/
import HealthBoard.Proofs.Health.Conservation

namespace HealthBoard

namespace HourCell

/-- A cell that says all that a record says. -/
structure Carries (cell : HourCell) (r : HourlyRecord) : Prop where
  modelName : cell.modelName = r.modelName
  hourStart : cell.hourStart = r.hourStart
  successSlices : cell.successSlices = r.successSlices
  totalSlices : cell.totalSlices = r.totalSlices
  successRequests : cell.successRequests = r.successRequests
  errorRequests : cell.errorRequests = r.errorRequests
  totalRequests : cell.totalRequests = r.totalRequests
  successRate : cell.successRate = r.successRate

/-- A cell that counts nothing and has a rate all the same. -/
structure Fills (cell : HourCell) (rate : Float) : Prop where
  successSlices : cell.successSlices = 0
  totalSlices : cell.totalSlices = 0
  successRequests : cell.successRequests = 0
  errorRequests : cell.errorRequests = 0
  totalRequests : cell.totalRequests = 0
  successRate : cell.successRate = rate

/-- What a cell of a model says, told by the last record of that model and hour. -/
structure Shows (cell : HourCell) (records : List HourlyRecord) (m : ModelRollup) : Prop where
  modelName : cell.modelName = m.modelName
  /-- A cell is real if the last record of its model and hour counts slices. -/
  real_iff : cell.isFilled = false ↔
    ∃ r, (Rollup.filed records (m.modelName, cell.hourStart)).getLast? = some r ∧
      0 < r.totalSlices.toInt
  real : cell.isFilled = false → ∀ r,
    (Rollup.filed records (m.modelName, cell.hourStart)).getLast? = some r → cell.Carries r
  filled : cell.isFilled = true → cell.Fills m.averageRate

theorem carries_real (r : HourlyRecord) : (real r).Carries r :=
  ⟨rfl, rfl, rfl, rfl, rfl, rfl, rfl, rfl⟩

theorem fills_filled (name : String) (hour : Int64) (average : Float) :
    (filled name hour average).Fills average :=
  ⟨rfl, rfl, rfl, rfl, rfl, rfl⟩

end HourCell

namespace Rollup

/-- The cell of a model for an hour, given the model's average. -/
def cellAt (records : List HourlyRecord) (name : String) (average : Float) (hour : Int64) :
    HourCell :=
  match shown? records name hour with
  | some r => .real r
  | none => .filled name hour average

variable {records : List HourlyRecord} {hours : List Int64} {name : String}

theorem hourly_ofModel : (ofModel records hours name).hourly
    = hours.reverse.map (cellAt records name (ofModel records hours name).averageRate) := rfl

theorem totalSuccess_ofModel : (ofModel records hours name).totalSuccess
    = total (counts (·.successSlices) records hours name) := rfl

theorem totalSlices_ofModel : (ofModel records hours name).totalSlices
    = total (counts (·.totalSlices) records hours name) := rfl

theorem cellAt_of_shown {hour : Int64} {r : HourlyRecord} (h : shown? records name hour = some r)
    (average : Float) : cellAt records name average hour = .real r := by
  unfold cellAt
  rw [h]

theorem cellAt_of_not_shown {hour : Int64} (h : shown? records name hour = none)
    (average : Float) : cellAt records name average hour = .filled name hour average := by
  unfold cellAt
  rw [h]

/-- A cell is the cell of its hour, also where it says what a record says. -/
theorem hourStart_cellAt (average : Float) (hour : Int64) :
    (cellAt records name average hour).hourStart = hour := by
  cases h : shown? records name hour with
  | some r =>
      rw [cellAt_of_shown h]
      exact congrArg Prod.snd (key_of_shown? h)
  | none =>
      rw [cellAt_of_not_shown h]
      rfl

theorem shows_cellAt (hour : Int64) :
    (cellAt records name (ofModel records hours name).averageRate hour).Shows records
      (ofModel records hours name) := by
  have hname : (ofModel records hours name).modelName = name := rfl
  cases h : shown? records name hour with
  | some r =>
      have hlast := shown?_eq_some_iff.mp h
      have hkey : key r = (name, hour) := key_of_shown? h
      have hhour : (HourCell.real r).hourStart = hour := congrArg Prod.snd hkey
      rw [cellAt_of_shown h]
      refine ⟨congrArg Prod.fst hkey, ?_, ?_, ?_⟩
      · rw [hname, hhour]
        exact ⟨fun _ => ⟨r, hlast⟩, fun _ => rfl⟩
      · rw [hname, hhour, hlast.1]
        rintro - s hs
        cases hs
        exact HourCell.carries_real r
      · intro hfilled
        cases hfilled
  | none =>
      rw [cellAt_of_not_shown h]
      refine ⟨rfl, ?_, ?_, fun _ => HourCell.fills_filled _ _ _⟩
      · constructor
        · intro hreal
          cases hreal
        · rintro ⟨r, hlast⟩
          exact absurd (h.symm.trans (shown?_eq_some_iff.mpr hlast)) nofun
      · intro hreal
        cases hreal

theorem shows_of_mem_hourly {m : ModelRollup} (hm : m ∈ rollup records hours) {cell : HourCell}
    (hcell : cell ∈ m.hourly) : cell.Shows records m := by
  obtain ⟨name, -, rfl⟩ := mem_rollup.mp hm
  rw [hourly_ofModel] at hcell
  obtain ⟨hour, -, rfl⟩ := List.mem_map.mp hcell
  exact shows_cellAt hour

/-! ### Sums over a strip -/

/-- A count of a cell is what its hour adds to the sum over the grid. -/
private theorem count_cellAt {count : HourCell → Int64} {source : HourlyRecord → Int64}
    (hreal : ∀ r, count (.real r) = source r)
    (hfilled : ∀ name hour average, count (.filled name hour average) = 0)
    (average : Float) (hour : Int64) :
    (count (cellAt records name average hour)).toInt
      = placeCount (fun r => (source r).toInt) records (name, hour) := by
  unfold placeCount
  cases h : shown? records name hour with
  | some r => rw [cellAt_of_shown h, hreal, Option.map_some, Option.getD_some]
  | none =>
      rw [cellAt_of_not_shown h, hfilled, Option.map_none, Option.getD_none]
      rfl

/-- **Adding up a strip is adding up the records that are shown in it.** -/
theorem sum_hourly {count : HourCell → Int64} {source : HourlyRecord → Int64}
    (hreal : ∀ r, count (.real r) = source r)
    (hfilled : ∀ name hour average, count (.filled name hour average) = 0) :
    ((ofModel records hours name).hourly.map fun cell => (count cell).toInt).sum
      = exactTotal (counts source records hours name) := by
  rw [exactTotal_counts, hourly_ofModel, List.map_map, List.map_reverse, List.sum_reverse]
  congr 1
  exact List.map_congr_left fun hour _ => count_cellAt hreal hfilled _ hour

end Rollup

open Rollup

/--
**A strip has a cell for each hour, the latest first, and its cells add up to the model's totals**,
exactly if the sums fit in 64 bits.  What a cell says depends on the last record of its model and
hour: if that one counts slices, the cell is real and says what the record says, and this is so also
if none of the slices is a success.  In any other case the cell counts nothing and has the model's
average for a rate.
-/
theorem rollup_cells {records : List HourlyRecord} {hours : List Int64} {m : ModelRollup}
    (hm : m ∈ rollup records hours) :
    let success := (m.hourly.map fun cell => cell.successSlices.toInt).sum
    let slices := (m.hourly.map fun cell => cell.totalSlices.toInt).sum
    m.hourly.map (·.hourStart) = hours.reverse ∧
      (∀ cell ∈ m.hourly, cell.Shows records m) ∧
      m.totalSuccess = Int64.ofInt success ∧ m.totalSlices = Int64.ofInt slices ∧
      (Fits success → success = m.totalSuccess.toInt) ∧
      (Fits slices → slices = m.totalSlices.toInt) ∧
      m.averageRate = weightedRate m.totalSuccess m.totalSlices ∧
      ∀ cell ∈ m.hourly, ∀ r, (filed records (m.modelName, cell.hourStart)).getLast? = some r →
        0 < r.totalSlices.toInt → r.successSlices = 0 →
          cell.isFilled = false ∧ cell.successSlices = 0 := by
  intro success slices
  have hshows : ∀ cell ∈ m.hourly, cell.Shows records m := fun _ => shows_of_mem_hourly hm
  obtain ⟨name, -, rfl⟩ := mem_rollup.mp hm
  have hsuccess : (ofModel records hours name).totalSuccess = Int64.ofInt success := by
    have hsum : success = exactTotal (counts (·.successSlices) records hours name) :=
      sum_hourly (fun _ => rfl) fun _ _ _ => rfl
    rw [totalSuccess_ofModel, total_eq_ofInt, hsum]
  have hslices : (ofModel records hours name).totalSlices = Int64.ofInt slices := by
    have hsum : slices = exactTotal (counts (·.totalSlices) records hours name) :=
      sum_hourly (fun _ => rfl) fun _ _ _ => rfl
    rw [totalSlices_ofModel, total_eq_ofInt, hsum]
  refine ⟨?_, hshows, hsuccess, hslices, fun h => by rw [hsuccess, toInt_ofInt_of_fits h],
    fun h => by rw [hslices, toInt_ofInt_of_fits h], rfl, ?_⟩
  · rw [hourly_ofModel, List.map_map]
    exact (List.map_congr_left fun hour _ => hourStart_cellAt _ hour).trans (List.map_id _)
  · intro cell hcell r hlast hpositive hnone
    have hreal : cell.isFilled = false := (hshows cell hcell).real_iff.mpr ⟨r, hlast, hpositive⟩
    exact ⟨hreal, ((hshows cell hcell).real hreal r hlast).successSlices.trans hnone⟩

/-- One model, with an hour that was taken back, one without a success and two records for one. -/
def patchyRecords : List HourlyRecord :=
  [⟨"fast", 0, 1, 4, 10, 30, 40, 0.25⟩, ⟨"fast", 3600, 5, 5, 50, 0, 50, 1⟩,
    ⟨"fast", 3600, 0, 0, 0, 0, 0, 0⟩, ⟨"fast", 7200, 0, 4, 0, 40, 40, 0⟩,
    ⟨"fast", 0, 3, 4, 30, 10, 40, 0.75⟩]

theorem rollup_cells_patchy :
    let hours : List Int64 := [7200, 0, 3600, 0]
    let m := ofModel patchyRecords hours "fast"
    m ∈ rollup patchyRecords hours ∧ m.hourly.map (·.hourStart) = [0, 3600, 0, 7200] ∧
      (∀ cell ∈ m.hourly, cell.Shows patchyRecords m) ∧
      m.hourly.map (·.isFilled) = [false, true, false, false] ∧
      m.totalSuccess = 6 ∧ m.totalSlices = 12 ∧ m.averageRate = weightedRate 6 12 ∧
      ∀ cell ∈ m.hourly, cell.hourStart = 7200 →
        cell.isFilled = false ∧ cell.successSlices = 0 := by
  intro hours m
  have hm : m ∈ rollup patchyRecords hours := mem_rollup.mpr ⟨"fast", by decide, rfl⟩
  obtain ⟨hhours, hshows, hsuccess, hslices, -, -, hrate, hfailures⟩ := rollup_cells hm
  have hsix : m.totalSuccess = 6 := hsuccess.trans (by decide)
  have htwelve : m.totalSlices = 12 := hslices.trans (by decide)
  refine ⟨hm, hhours, hshows, by decide, hsix, htwelve, by rw [hrate, hsix, htwelve], ?_⟩
  intro cell hcell hhour
  refine hfailures cell hcell ⟨"fast", 7200, 0, 4, 0, 40, 40, 0⟩ ?_ (by decide) rfl
  rw [hhour]
  rfl

end HealthBoard
