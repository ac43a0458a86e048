/-
Which bounds are a window, and what its axis is.

Two bounds are held against four conditions, and the first that fails is the complaint.  `Refused`
has a case for each of them, so that it is also the negation: bounds that are refused for nothing
are a window.

The axis is computed by counting: so many hours, each at its distance from the start.  It is read as
a walk that begins at the start and goes on by an hour as long as it is before the end.  `map_hours`
says that the two are the same list, and as the walk is in exact arithmetic, that no hour on the
axis was wrapped around the end of the 64-bit range.  What is true of the steps of an axis is then
true of a walk, by its recursion.
-/
import HealthBoard.Proofs.Health.Bounds
import HealthBoard.Proofs.Health.Window
import Mathlib.Data.List.Chain

namespace HealthBoard

/-! ### Walking from hour to hour -/

/-- The hours that are passed on the way, the end not included. -/
def walk (hour stop : Int) : List Int :=
  if hour < stop then hour :: walk (hour + hourSeconds) stop else []
termination_by (stop - hour).toNat
decreasing_by
  unfold hourSeconds
  omega

theorem walk_of_lt {hour stop : Int} (h : hour < stop) :
    walk hour stop = hour :: walk (hour + hourSeconds) stop := by
  rw [walk, if_pos h]

theorem walk_of_le {hour stop : Int} (h : stop ≤ hour) : walk hour stop = [] := by
  rw [walk, if_neg (by omega)]

theorem head?_walk {hour stop first : Int} (h : (walk hour stop).head? = some first) :
    first = hour := by
  by_cases hlt : hour < stop
  · rw [walk_of_lt hlt, List.head?_cons] at h
    exact (Option.some.inj h).symm
  · rw [walk_of_le (by omega)] at h
    cases h

/-- Every step of a walk is an hour. -/
theorem isChain_walk (hour stop : Int) :
    (walk hour stop).IsChain fun a b => b = a + hourSeconds := by
  induction hour using walk.induct stop with
  | case1 hour hlt ih =>
      rw [walk_of_lt hlt, List.isChain_cons]
      exact ⟨fun next hnext => head?_walk hnext, ih⟩
  | case2 hour hnot =>
      rw [walk_of_le (by omega)]
      exact .nil

theorem pairwise_walk (hour stop : Int) : (walk hour stop).Pairwise (· < ·) := by
  rw [← List.isChain_iff_pairwise]
  refine (isChain_walk hour stop).imp fun a b hstep => ?_
  unfold hourSeconds at hstep
  omega

/-- A walk over so many hours passes as many, each at its distance from the first. -/
theorem walk_eq_map_range (hour : Int) (n : Nat) :
    walk hour (hour + hourSeconds * (n : Int))
      = (List.range n).map fun (i : Nat) => hour + hourSeconds * (i : Int) := by
  induction n generalizing hour with
  | zero => exact walk_of_le (by simp)
  | succ n ih =>
      have hlt : hour < hour + hourSeconds * ((n + 1 : Nat) : Int) := by
        unfold hourSeconds
        omega
      have hstop : hour + hourSeconds * ((n + 1 : Nat) : Int)
          = hour + hourSeconds + hourSeconds * (n : Int) := by
        unfold hourSeconds
        omega
      have hshift : ∀ i : Nat, hour + hourSeconds * ((i + 1 : Nat) : Int)
          = hour + hourSeconds + hourSeconds * (i : Int) := by
        intro i
        unfold hourSeconds
        omega
      rw [walk_of_lt hlt, hstop, ih, List.range_succ_eq_map, List.map_cons, List.map_map]
      refine congrArg₂ List.cons (by simp) (List.map_congr_left fun i _ => ?_)
      exact (hshift i).symm

namespace HourWindow

/-- **The axis of a window is the walk from its start to its end.** -/
theorem map_hours (w : HourWindow) :
    w.hours.map Int64.toInt = walk w.start.toInt w.stop.toInt := by
  have hstop : w.stop.toInt = w.start.toInt + hourSeconds * (w.hourCount : Int) := by
    have hspan := hourCount_span w
    omega
  rw [hstop, walk_eq_map_range]
  unfold hours
  rw [List.map_map]
  exact List.map_congr_left fun i hi => toInt_hour w (List.mem_range.mp hi)

/-! ### Bounds that are refused -/

/-- The first thing that is wrong with two bounds. -/
inductive Refused (start stop : Int64) : WindowFault → Prop
  | start (h : ¬ 3600 ∣ start.toInt) : Refused start stop (.notAligned start)
  | stop (hstart : 3600 ∣ start.toInt) (h : ¬ 3600 ∣ stop.toInt) :
      Refused start stop (.notAligned stop)
  | empty (hstart : 3600 ∣ start.toInt) (hstop : 3600 ∣ stop.toInt)
      (h : stop.toInt - start.toInt ≤ 0) : Refused start stop (.empty start stop)
  | tooWide (hstart : 3600 ∣ start.toInt) (hstop : 3600 ∣ stop.toInt)
      (h : 2592000 < stop.toInt - start.toInt) : Refused start stop (.tooWide start stop)

variable {start stop : Int64}

theorem between_eq_error_iff {fault : WindowFault} :
    between start stop = .error fault ↔ Refused start stop fault := by
  unfold between hourSeconds greatestSpan
  constructor
  · intro h
    split at h
    · split at h
      · split at h
        · split at h
          · cases h
          · cases h
            exact .tooWide (by omega) (by omega) (by omega)
        · cases h
          exact .empty (by omega) (by omega) (by omega)
      · cases h
        exact .stop (by omega) (by omega)
    · cases h
      exact .start (by omega)
  · rintro (h | ⟨hstart, h⟩ | ⟨hstart, hstop, h⟩ | ⟨hstart, hstop, h⟩)
    · rw [dif_neg (by omega)]
    · rw [dif_pos (by omega), dif_neg (by omega)]
    · rw [dif_pos (by omega), dif_pos (by omega), dif_neg (by omega)]
    · rw [dif_pos (by omega), dif_pos (by omega), dif_pos (by omega), dif_neg (by omega)]

theorem exists_between_iff :
    (∃ w, between start stop = .ok w) ↔
      3600 ∣ start.toInt ∧ 3600 ∣ stop.toInt ∧
        0 < stop.toInt - start.toInt ∧ stop.toInt - start.toInt ≤ 2592000 := by
  have hwindow : IsWindow start.toInt stop.toInt ↔ _ := isWindow_iff
  simp only [Int64.toInt_inj] at hwindow
  simp only [between_eq_ok_iff, ← hwindow]
  constructor
  · rintro ⟨hstart, hstop, hlt, hle, -, -⟩
    unfold greatestSpan at hle
    unfold hourSeconds at hstart hstop hle
    omega
  · rintro ⟨hstart, hstop, hlt, hle⟩
    exact ⟨Int.emod_eq_zero_of_dvd hstart, Int.emod_eq_zero_of_dvd hstop, by omega, hle,
      start.le_toInt, stop.toInt_le⟩

/-! ### The axis -/

/-- What the hours of a window are, to who reads along them and to who looks for one. -/
structure IsAxis (w : HourWindow) (hours : List Int64) : Prop where
  head : hours.head? = some w.start
  last : ∃ hour, hours.getLast? = some hour ∧ hour.toInt = w.stop.toInt - 3600
  step : hours.IsChain fun a b => b.toInt = a.toInt + 3600
  ascending : hours.Pairwise (· < ·)
  length : hours.length = w.hourCount
  count_pos : 1 ≤ w.hourCount
  count_le : w.hourCount ≤ 720
  mem_iff (ts : Int64) : ts ∈ hours ↔ w.contains ts = true ∧ 3600 ∣ ts.toInt
  /-- The hour of a time is on the axis if it begins within 64 bits at all. -/
  contains_iff (ts : Int64) (h : leastInteger ≤ hourOf ts) :
    w.contains ts = true ↔ floorToHour ts ∈ hours

variable (w : HourWindow)

theorem head?_hours : w.hours.head? = some w.start := by
  have hlt := w.start_lt_stop
  have hhead := congrArg List.head? (map_hours w)
  rw [walk_of_lt hlt, List.head?_cons, List.head?_map, Option.map_eq_some_iff] at hhead
  obtain ⟨first, hfirst, heq⟩ := hhead
  rw [hfirst, Int64.toInt_inj.mp heq]

/-- A time is in the window if its hour is: both ends of the window are on the hour. -/
theorem contains_floorToHour {ts : Int64} (h : leastInteger ≤ hourOf ts) :
    w.contains (floorToHour ts) = w.contains ts := by
  have hstart := w.start_aligned
  have hstop := w.stop_aligned
  rw [Bool.eq_iff_iff, contains_iff, contains_iff, toInt_floorToHour h]
  unfold hourOf
  unfold hourSeconds at *
  omega

theorem isAxis_hours : IsAxis w w.hours where
  head := head?_hours w
  last := getLast?_hours w
  step := by
    have hsteps := isChain_walk w.start.toInt w.stop.toInt
    rw [← map_hours, List.isChain_map] at hsteps
    exact hsteps
  ascending := by
    have hascending := pairwise_walk w.start.toInt w.stop.toInt
    rw [← map_hours, List.pairwise_map] at hascending
    exact hascending.imp Int64.lt_iff_toInt_lt.mpr
  length := by
    unfold hours
    rw [List.length_map, List.length_range]
  count_pos := by
    have hspan := hourCount_span w
    have hlt := w.start_lt_stop
    unfold hourSeconds at hspan
    omega
  count_le := by
    have hspan := hourCount_span w
    have hle := w.span_le
    unfold greatestSpan at hle
    unfold hourSeconds at *
    omega
  mem_iff ts := by
    rw [mem_hours, Int.dvd_iff_emod_eq_zero]
    rfl
  contains_iff ts h := by
    have haligned : (floorToHour ts).toInt % hourSeconds = 0 := by
      rw [toInt_floorToHour h, hourOf_emod]
    rw [mem_hours, contains_floorToHour w h, and_iff_left haligned]

/--
**Two bounds are a window with an axis, or the first thing wrong with them is the complaint.**  They
are one exactly if both are on the hour, the second after the first and by no more than 30 days, in
exact arithmetic.
-/
theorem between_accounted (start stop : Int64) :
    ((∃ w, between start stop = .ok w) ↔
      3600 ∣ start.toInt ∧ 3600 ∣ stop.toInt ∧
        0 < stop.toInt - start.toInt ∧ stop.toInt - start.toInt ≤ 2592000) ∧
    (∀ fault, between start stop = .error fault ↔ Refused start stop fault) ∧
    ∀ w, between start stop = .ok w →
      w.start = start ∧ w.stop = stop ∧
        w.hours.map Int64.toInt = walk start.toInt stop.toInt ∧ IsAxis w w.hours := by
  refine ⟨exists_between_iff, fun fault => between_eq_error_iff, fun w hw => ?_⟩
  obtain ⟨rfl, rfl⟩ := between_eq_ok_iff.mp hw
  exact ⟨rfl, rfl, map_hours w, isAxis_hours w⟩

/-- Around the epoch: two hours before it, and the one that begins with it.  The second before the
epoch falls into the middle one. -/
theorem between_accounted_epoch :
    ∃ w, between (-7200) 3600 = .ok w ∧ IsAxis w w.hours ∧ w.hours = [-7200, -3600, 0] ∧
      leastInteger ≤ hourOf (-1) ∧ w.contains (-1) = true ∧ floorToHour (-1) ∈ w.hours := by
  obtain ⟨hok, -, hall⟩ := between_accounted (-7200) 3600
  obtain ⟨w, hw⟩ := hok.mpr (by decide)
  obtain ⟨hstart, hstop, -, haxis⟩ := hall w hw
  have hhours : w.hours = [-7200, -3600, 0] := by
    unfold hours hourCount
    rw [hstart, hstop]
    rfl
  have hin : w.contains (-1) = true := by
    rw [contains_iff, hstart, hstop]
    decide
  have hleast : leastInteger ≤ hourOf (-1) := by decide
  exact ⟨w, hw, haxis, hhours, hleast, hin, (haxis.contains_iff (-1) hleast).mp hin⟩

end HourWindow
end HealthBoard
