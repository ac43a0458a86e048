/-
Which windows there are.

A window is made in three ways, and two of them compute bounds and clamp them to 64 bits.  Neither
end of the range is on the hour, so a bound that was clamped is refused and one that is accepted was
exact: `toInt_clamp_of_aligned` is that argument.  So a window that is made has the bounds that
exact arithmetic gives, and one with these bounds is made whenever there is any.
-/
import HealthBoard.Health.Window
import HealthBoard.Proofs.Decimal

namespace HealthBoard

/-- The start of the hour of a timestamp, in exact arithmetic. -/
def hourOf (ts : Int64) : Int := ts.toInt / hourSeconds * hourSeconds

theorem hourOf_le (ts : Int64) : hourOf ts ≤ ts.toInt := by
  unfold hourOf hourSeconds
  omega

theorem hourOf_emod (ts : Int64) : hourOf ts % hourSeconds = 0 := Int.mul_emod_left _ _

/-- The start of an hour is exact if it is not before the range. -/
theorem toInt_floorToHour {ts : Int64} (h : leastInteger ≤ hourOf ts) :
    (floorToHour ts).toInt = hourOf ts := by
  have hle := hourOf_le ts
  have hlt := ts.toInt_lt
  unfold leastInteger at h
  unfold floorToHour
  exact Int64.toInt_ofInt_of_le h (by unfold hourOf at hle; omega)

/-! ### Clamped bounds -/

theorem clamp_of_mem {n : Int} (hl : leastInteger ≤ n) (hg : n ≤ greatestInteger) :
    (clamp n).toInt = n := by
  rw [toInt_clamp, if_neg (by omega), if_neg (by omega)]

theorem clamp_toInt (n : Int64) : clamp n.toInt = n := by
  rw [← Int64.toInt_inj]
  exact clamp_of_mem n.le_toInt n.toInt_le

/-- **A clamped bound that is on the hour was not clamped.** -/
theorem toInt_clamp_of_aligned {n : Int} (h : (clamp n).toInt % hourSeconds = 0) :
    (clamp n).toInt = n := by
  rw [toInt_clamp] at h ⊢
  unfold leastInteger greatestInteger hourSeconds at *
  split at h
  · omega
  · split at h
    · omega
    · omega

/-! ### The windows there are -/

/-- Two exact numbers are the bounds of a window. -/
structure IsWindow (start stop : Int) : Prop where
  start_aligned : start % hourSeconds = 0
  stop_aligned : stop % hourSeconds = 0
  start_lt_stop : start < stop
  span_le : stop - start ≤ greatestSpan * hourSeconds
  /-- Neither bound is outside of 64 bits. -/
  least_le : leastInteger ≤ start
  le_greatest : stop ≤ greatestInteger

theorem isWindow_iff {start stop : Int} :
    IsWindow start stop ↔ ∃ w : HourWindow, w.start.toInt = start ∧ w.stop.toInt = stop := by
  constructor
  · intro h
    have hlt := h.start_lt_stop
    have hstart : (clamp start).toInt = start :=
      clamp_of_mem h.least_le (by have := h.le_greatest; omega)
    have hstop : (clamp stop).toInt = stop :=
      clamp_of_mem (by have := h.least_le; omega) h.le_greatest
    refine ⟨⟨clamp start, clamp stop, ?_, ?_, ?_, ?_⟩, hstart, hstop⟩
    · rw [hstart]
      exact h.start_aligned
    · rw [hstop]
      exact h.stop_aligned
    · rw [hstart, hstop]
      exact h.start_lt_stop
    · rw [hstart, hstop]
      exact h.span_le
  · rintro ⟨w, rfl, rfl⟩
    exact ⟨w.start_aligned, w.stop_aligned, w.start_lt_stop, w.span_le, w.start.le_toInt,
      w.stop.toInt_le⟩

namespace HourWindow

/-! ### The windows that are made -/

theorem between_eq_ok_iff {start stop : Int64} {w : HourWindow} :
    between start stop = .ok w ↔ w.start = start ∧ w.stop = stop := by
  constructor
  · intro h
    unfold between at h
    split at h
    · split at h
      · split at h
        · split at h
          · cases h
            exact ⟨rfl, rfl⟩
          · cases h
        · cases h
      · cases h
    · cases h
  · rintro ⟨rfl, rfl⟩
    unfold between
    rw [dif_pos w.start_aligned, dif_pos w.stop_aligned, dif_pos w.start_lt_stop,
      dif_pos w.span_le]

/-- Two timestamps are covered by the window from the first's hour to the end of the last's. -/
theorem covering_eq_ok_iff {first last : Int64} (hfirst : leastInteger ≤ hourOf first)
    (hlast : leastInteger ≤ hourOf last) {w : HourWindow} :
    covering first last = .ok w ↔
      w.start.toInt = hourOf first ∧ w.stop.toInt = hourOf last + hourSeconds := by
  unfold covering
  rw [between_eq_ok_iff, toInt_floorToHour hlast]
  constructor
  · rintro ⟨hstart, hstop⟩
    have haligned := w.stop_aligned
    rw [hstop] at haligned ⊢
    rw [hstart, toInt_floorToHour hfirst, toInt_clamp_of_aligned haligned]
    exact ⟨rfl, rfl⟩
  · rintro ⟨hstart, hstop⟩
    rw [← hstop, clamp_toInt, ← Int64.toInt_inj, toInt_floorToHour hfirst]
    exact ⟨hstart, rfl⟩

/--
So many hours are the window that ends with the present hour.  Of the three numbers that are clamped
the last is the start of the window; it is on the hour only if the other two were exact as well.
-/
theorem lastHours_eq_ok_iff {now hours : Int64} (hnow : leastInteger ≤ hourOf now)
    {w : HourWindow} :
    lastHours now hours = .ok w ↔
      w.start.toInt = hourOf now + hourSeconds - hours.toInt * hourSeconds ∧
        w.stop.toInt = hourOf now + hourSeconds := by
  unfold lastHours
  rw [between_eq_ok_iff, toInt_floorToHour hnow]
  constructor
  · rintro ⟨hstart, hstop⟩
    have hstopAligned := w.stop_aligned
    rw [hstop] at hstopAligned
    have hstopExact := toInt_clamp_of_aligned hstopAligned
    have hstartAligned := w.start_aligned
    rw [hstart] at hstartAligned
    have hstartExact := toInt_clamp_of_aligned hstartAligned
    have hspanAligned : (clamp (hours.toInt * hourSeconds)).toInt % hourSeconds = 0 := by
      unfold hourSeconds at *
      omega
    rw [hstart, hstop, hstartExact, hstopExact, toInt_clamp_of_aligned hspanAligned]
    exact ⟨rfl, rfl⟩
  · rintro ⟨hstart, hstop⟩
    have hspan : (clamp (hours.toInt * hourSeconds)).toInt = hours.toInt * hourSeconds := by
      have hlt := w.start_lt_stop
      have hle := w.span_le
      unfold greatestSpan at hle
      refine clamp_of_mem ?_ ?_
      · unfold leastInteger hourSeconds at *
        omega
      · unfold greatestInteger hourSeconds at *
        omega
    rw [← hstop, clamp_toInt, hspan, hstop, ← hstart, clamp_toInt]
    exact ⟨rfl, rfl⟩

end HourWindow
end HealthBoard
