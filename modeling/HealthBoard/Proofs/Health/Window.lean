/-
What stands on the axis of a window.

The axis is computed: so many steps of an hour, from the start on.  Every use of it wants to know
membership instead, and `mem_hours` is that: a timestamp is on the axis if the window contains it
and it is on the hour.  Both ends of a window are on the hour and within 64 bits, so no step of the
computation leaves the range.
-/
import HealthBoard.Health.Window
import Mathlib.Data.List.Nodup

namespace HealthBoard.HourWindow

variable (w : HourWindow)

/-- The count of hours spans the window exactly. -/
theorem hourCount_span : hourSeconds * (w.hourCount : Int) = w.stop.toInt - w.start.toInt := by
  have hs := w.start_aligned
  have ht := w.stop_aligned
  have hlt := w.start_lt_stop
  unfold hourCount
  unfold hourSeconds at *
  omega

/-- No step along the axis leaves the 64-bit range. -/
theorem toInt_hour {i : Nat} (hi : i < w.hourCount) :
    (Int64.ofInt (w.start.toInt + hourSeconds * (i : Int))).toInt
      = w.start.toInt + hourSeconds * (i : Int) := by
  have hspan := hourCount_span w
  have hstart := w.start.le_toInt
  have hstop := w.stop.toInt_lt
  rw [Int64.toInt_ofInt_of_le]
  · unfold hourSeconds
    omega
  · unfold hourSeconds at *
    omega

theorem contains_iff {ts : Int64} :
    w.contains ts = true ↔ w.start.toInt ≤ ts.toInt ∧ ts.toInt < w.stop.toInt := by
  unfold contains
  rw [Bool.and_eq_true, decide_eq_true_eq, decide_eq_true_eq]

/-- **The axis holds the hours that the window contains, and nothing else.** -/
theorem mem_hours {ts : Int64} :
    ts ∈ w.hours ↔ w.contains ts = true ∧ ts.toInt % hourSeconds = 0 := by
  have hspan := hourCount_span w
  have hs := w.start_aligned
  unfold hours
  rw [List.mem_map]
  constructor
  · rintro ⟨i, hi, rfl⟩
    have hlt : i < w.hourCount := List.mem_range.mp hi
    rw [contains_iff, toInt_hour w hlt]
    unfold hourSeconds at *
    omega
  · rintro ⟨hin, hmod⟩
    rw [contains_iff] at hin
    unfold hourSeconds at *
    refine ⟨((ts.toInt - w.start.toInt) / 3600).toNat, List.mem_range.mpr (by omega), ?_⟩
    have hback : w.start.toInt + 3600 * (((ts.toInt - w.start.toInt) / 3600).toNat : Int)
        = ts.toInt := by omega
    rw [hback, Int64.ofInt_toInt]

/-- No hour stands on the axis twice. -/
theorem nodup_hours : w.hours.Nodup := by
  unfold hours
  refine List.Nodup.map_on ?_ List.nodup_range
  intro i hi j hj heq
  have htime := congrArg Int64.toInt heq
  rw [toInt_hour w (List.mem_range.mp hi), toInt_hour w (List.mem_range.mp hj)] at htime
  unfold hourSeconds at htime
  omega

/-- The last hour of the axis is the one before the end. -/
theorem getLast?_hours :
    ∃ hour, w.hours.getLast? = some hour ∧ hour.toInt = w.stop.toInt - hourSeconds := by
  have hspan := hourCount_span w
  have hlt := w.start_lt_stop
  have hpos : 0 < w.hourCount := by
    unfold hourSeconds at hspan
    omega
  obtain ⟨n, hn⟩ := Nat.exists_eq_succ_of_ne_zero (Nat.ne_of_gt hpos)
  refine ⟨Int64.ofInt (w.start.toInt + hourSeconds * (n : Int)), ?_, ?_⟩
  · unfold hours
    rw [hn, Nat.succ_eq_add_one, List.range_succ, List.map_append, List.map_singleton,
      List.getLast?_concat]
  · rw [toInt_hour w (by omega)]
    rw [hn] at hspan
    unfold hourSeconds at *
    omega

end HealthBoard.HourWindow
