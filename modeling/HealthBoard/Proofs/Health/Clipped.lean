/-
Clamping never yields another window than the one meant.

The last hours and the hours around two times are computed with 64 bits, and an operation that would
leave them is clipped to the end of the range.  The bounds of a window that is made are exact all
the same (`lastHours_eq_ok_iff`, `covering_eq_ok_iff`), so whoever has a window has also the numbers
that were clamped on the way, and reads off that none of them was clipped.  What is left is to say
in exact arithmetic when there is a window at all, and that is `IsWindow` spelled out.
-/
import HealthBoard.Proofs.Except
import HealthBoard.Proofs.Health.Bounds
import HealthBoard.Proofs.Health.Sum
import HealthBoard.Proofs.Health.Window

namespace HealthBoard

/-- An operation with this exact result is clipped. -/
def Clips (n : Int) : Prop := (clamp n).toInt ≠ n

instance (n : Int) : Decidable (Clips n) := by
  unfold Clips
  infer_instance

theorem Fits.not_clips {n : Int} (h : Fits n) : ¬ Clips n := fun hclips =>
  hclips (clamp_of_mem h.1 h.2)

/-- Between whole hours the windows are those of 1 to 720 hours. -/
theorem isWindow_iff_span {start stop : Int} (hstart : start % hourSeconds = 0)
    (hstop : stop % hourSeconds = 0) :
    IsWindow start stop ↔
      Fits start ∧ Fits stop ∧ ∃ n : Int, 1 ≤ n ∧ n ≤ 720 ∧ stop - start = 3600 * n := by
  unfold Fits
  constructor
  · rintro ⟨-, -, hlt, hle, hleast, hgreatest⟩
    refine ⟨⟨hleast, by omega⟩, ⟨by omega, hgreatest⟩, (stop - start) / 3600, ?_⟩
    unfold greatestSpan at hle
    unfold hourSeconds at *
    omega
  · rintro ⟨⟨hleast, -⟩, ⟨-, hgreatest⟩, n, hpos, hle, hspan⟩
    refine ⟨hstart, hstop, by omega, ?_, hleast, hgreatest⟩
    unfold greatestSpan hourSeconds
    omega

namespace HourWindow

/-! ### The last hours -/

variable {now hours first last : Int64}

theorem exists_lastHours_iff (hnow : leastInteger ≤ hourOf now) :
    (∃ w, lastHours now hours = .ok w) ↔
      IsWindow (hourOf now + hourSeconds - hours.toInt * hourSeconds)
        (hourOf now + hourSeconds) := by
  simp only [lastHours_eq_ok_iff hnow]
  exact isWindow_iff.symm

theorem exists_lastHours_iff_fits (hnow : leastInteger ≤ hourOf now) :
    (∃ w, lastHours now hours = .ok w) ↔
      1 ≤ hours.toInt ∧ hours.toInt ≤ 720 ∧ Fits (hourOf now + 3600) ∧
        Fits (hourOf now + 3600 - 3600 * hours.toInt) := by
  have hstop : (hourOf now + hourSeconds) % hourSeconds = 0 := by
    rw [Int.add_emod_right, hourOf_emod]
  have hstart : (hourOf now + hourSeconds - hours.toInt * hourSeconds) % hourSeconds = 0 := by
    rw [Int.sub_mul_emod_self_right, hstop]
  rw [exists_lastHours_iff hnow, isWindow_iff_span hstart hstop, Int.mul_comm hours.toInt]
  constructor
  · rintro ⟨hfitsStart, hfitsStop, n, hpos, hle, hspan⟩
    unfold hourSeconds at hspan
    exact ⟨by omega, by omega, hfitsStop, hfitsStart⟩
  · rintro ⟨hpos, hle, hfitsStop, hfitsStart⟩
    exact ⟨hfitsStart, hfitsStop, hours.toInt, hpos, hle, Int.sub_sub_self _ _⟩

/-- Some operation on the way to the last hours is clipped: the one for the end, for the span, or
for the start, which is computed from what came of these two. -/
def LastClips (now hours : Int64) : Prop :=
  Clips (hourOf now + 3600) ∨ Clips (hours.toInt * 3600) ∨
    Clips ((clamp (hourOf now + 3600)).toInt - (clamp (hours.toInt * 3600)).toInt)

/-- If there are last hours, all numbers on the way to them fit. -/
theorem not_lastClips (hnow : leastInteger ≤ hourOf now) {w : HourWindow}
    (h : lastHours now hours = .ok w) : ¬ LastClips now hours := by
  obtain ⟨hstart, hstop⟩ := (lastHours_eq_ok_iff hnow).mp h
  have hlt := w.start_lt_stop
  have hle := w.span_le
  have hstopFits : Fits (hourOf now + 3600) := hstop ▸ fits_toInt w.stop
  have hspanFits : Fits (hours.toInt * 3600) := by
    unfold Fits leastInteger greatestInteger
    unfold greatestSpan at hle
    unfold hourSeconds at *
    omega
  have hstartFits : Fits (hourOf now + 3600 - hours.toInt * 3600) := hstart ▸ fits_toInt w.start
  rintro (hclips | hclips | hclips)
  · exact hstopFits.not_clips hclips
  · exact hspanFits.not_clips hclips
  · rw [clamp_of_mem hstopFits.1 hstopFits.2, clamp_of_mem hspanFits.1 hspanFits.2] at hclips
    exact hstartFits.not_clips hclips

/-- The last hours as exact arithmetic has them. -/
structure ExactLast (now hours : Int64) : Prop where
  ok_iff : (∃ w, lastHours now hours = .ok w) ↔
    1 ≤ hours.toInt ∧ hours.toInt ≤ 720 ∧ Fits (hourOf now + 3600) ∧
      Fits (hourOf now + 3600 - 3600 * hours.toInt)
  count (w : HourWindow) (h : lastHours now hours = .ok w) : (w.hourCount : Int) = hours.toInt
  /-- The present falls into the last hour. -/
  last (w : HourWindow) (h : lastHours now hours = .ok w) :
    ∃ hour, w.hours.getLast? = some hour ∧ hour.toInt ≤ now.toInt ∧ now.toInt < hour.toInt + 3600
  clipped (h : LastClips now hours) : ∃ fault, lastHours now hours = .error fault

theorem exactLast (hnow : leastInteger ≤ hourOf now) : ExactLast now hours where
  ok_iff := exists_lastHours_iff_fits hnow
  count w h := by
    obtain ⟨hstart, hstop⟩ := (lastHours_eq_ok_iff hnow).mp h
    have hspan := hourCount_span w
    unfold hourSeconds at *
    omega
  last w h := by
    obtain ⟨-, hstop⟩ := (lastHours_eq_ok_iff hnow).mp h
    obtain ⟨hour, hhour, heq⟩ := getLast?_hours w
    refine ⟨hour, hhour, ?_⟩
    rw [heq, hstop]
    unfold hourOf hourSeconds
    omega
  clipped h := exists_eq_error fun _ hw => not_lastClips hnow hw h

/-! ### The hours around two times -/

theorem exists_covering_iff (hfirst : leastInteger ≤ hourOf first)
    (hlast : leastInteger ≤ hourOf last) :
    (∃ w, covering first last = .ok w) ↔ IsWindow (hourOf first) (hourOf last + hourSeconds) := by
  simp only [covering_eq_ok_iff hfirst hlast]
  exact isWindow_iff.symm

/-- The hours around two times as exact arithmetic has them. -/
structure ExactCovering (first last : Int64) : Prop where
  ok_iff : (∃ w, covering first last = .ok w) ↔
    Fits (hourOf first) ∧ Fits (hourOf last + 3600) ∧
      ∃ n : Int, 1 ≤ n ∧ n ≤ 720 ∧ hourOf last + 3600 - hourOf first = 3600 * n
  range (w : HourWindow) (h : covering first last = .ok w) :
    w.start.toInt = hourOf first ∧ w.stop.toInt = hourOf last + 3600
  contains (w : HourWindow) (h : covering first last = .ok w) :
    w.contains first = true ∧ w.contains last = true
  least (w : HourWindow) (h : covering first last = .ok w) (v : HourWindow)
    (hfirst : v.contains first = true) (hlast : v.contains last = true) :
    v.start.toInt ≤ w.start.toInt ∧ w.stop.toInt ≤ v.stop.toInt
  clipped (h : Clips (hourOf last + 3600)) : ∃ fault, covering first last = .error fault

theorem exactCovering (hfirst : leastInteger ≤ hourOf first) (hlast : leastInteger ≤ hourOf last) :
    ExactCovering first last where
  ok_iff := by
    rw [exists_covering_iff hfirst hlast]
    refine isWindow_iff_span (hourOf_emod first) ?_
    rw [Int.add_emod_right, hourOf_emod]
  range w h := (covering_eq_ok_iff hfirst hlast).mp h
  contains w h := by
    obtain ⟨hstart, hstop⟩ := (covering_eq_ok_iff hfirst hlast).mp h
    have hlt := w.start_lt_stop
    rw [contains_iff, contains_iff, hstart, hstop]
    rw [hstart, hstop] at hlt
    unfold hourOf at *
    unfold hourSeconds at *
    omega
  least w h v hinFirst hinLast := by
    obtain ⟨hstart, hstop⟩ := (covering_eq_ok_iff hfirst hlast).mp h
    have hvstart := v.start_aligned
    have hvstop := v.stop_aligned
    rw [contains_iff] at hinFirst hinLast
    rw [hstart, hstop]
    unfold hourOf at *
    unfold hourSeconds at *
    omega
  clipped h := by
    refine exists_eq_error fun w hw => ?_
    obtain ⟨-, hstop⟩ := (covering_eq_ok_iff hfirst hlast).mp hw
    have hstopFits : Fits (hourOf last + 3600) := hstop ▸ fits_toInt w.stop
    exact hstopFits.not_clips h

/--
**The last hours and the hours around two times are those of exact arithmetic, or there are none.**
There are none exactly if the exact bounds are no window, and always if an operation on the way was
clipped.
-/
theorem windows_exact (hnow : leastInteger ≤ hourOf now) (hfirst : leastInteger ≤ hourOf first)
    (hlast : leastInteger ≤ hourOf last) : ExactLast now hours ∧ ExactCovering first last :=
  ⟨exactLast hnow, exactCovering hfirst hlast⟩

/-- The last day at the end of the range has no end, and the two times are on either side of the
epoch. -/
theorem windows_exact_edges :
    leastInteger ≤ hourOf Int64.maxValue ∧ leastInteger ≤ hourOf (-1) ∧ leastInteger ≤ hourOf 0 ∧
      (∃ fault, lastHours Int64.maxValue 24 = .error fault) ∧
      ∃ w, covering (-1) 0 = .ok w ∧ w.start.toInt = -3600 ∧ w.stop.toInt = 3600 := by
  have hnow : leastInteger ≤ hourOf Int64.maxValue := by decide
  have hfirst : leastInteger ≤ hourOf (-1) := by decide
  have hlast : leastInteger ≤ hourOf 0 := by decide
  obtain ⟨hrecent, hcovering⟩ : ExactLast Int64.maxValue 24 ∧ ExactCovering (-1) 0 :=
    windows_exact hnow hfirst hlast
  obtain ⟨w, hw⟩ := hcovering.ok_iff.mpr ⟨by decide, by decide, 2, by decide, by decide, by decide⟩
  exact ⟨hnow, hfirst, hlast, hrecent.clipped (.inl (by decide)), w, hw, hcovering.range w hw⟩

end HourWindow
end HealthBoard
