/-
A window that is looked at in two parts.

A model is added up hour by hour, and what is shown for an hour depends on the records alone.  So
the hours can be cut in two anywhere, with hours that come twice or stand in both parts, and the
totals add up.  The strip is in reverse, so it is that of the second part followed by that of the
first.

What does not add up is the average, and with it the rates of cells without a record, and the order
of the models, which goes by their successes.  `Joins` says that there is nothing else: a strip over
all hours is made from the strips of the parts by giving these cells their new rate.

The sums are sums in 64 bits.  The total over all hours is the sum of the two parts modulo 2 ^ 64,
so it is their exact sum if that fits; in a program that stops at a sum it always does.
-/
import HealthBoard.Proofs.Health.Axis
import HealthBoard.Proofs.Health.Cells
import HealthBoard.Proofs.Health.Ranking

namespace HealthBoard

/-- The cell with another rate, unless the rate is that of a record. -/
def HourCell.refill (rate : Float) (cell : HourCell) : HourCell :=
  if cell.isFilled then { cell with successRate := rate } else cell

/-- The cells of the hours that have a record. -/
def ModelRollup.realCells (m : ModelRollup) : List HourCell :=
  m.hourly.filter fun cell => !cell.isFilled

/-- A total is the sum of two others: in 64 bits, and exactly if that fits. -/
structure AddsUp (sum first second : Int64) : Prop where
  wrapped : sum = first + second
  exact_iff : sum.toInt = first.toInt + second.toInt ↔ Fits (first.toInt + second.toInt)

/-- A model is made up of two models over parts of its hours. -/
structure ModelRollup.Joins (m first second : ModelRollup) : Prop where
  totalSuccess : AddsUp m.totalSuccess first.totalSuccess second.totalSuccess
  totalSlices : AddsUp m.totalSlices first.totalSlices second.totalSlices
  realCells : m.realCells = second.realCells ++ first.realCells
  /-- All cells are those of the parts, but for the rate of those without a record. -/
  hourly : m.hourly = (second.hourly ++ first.hourly).map (HourCell.refill m.averageRate)
  averageRate : m.averageRate = weightedRate m.totalSuccess m.totalSlices

namespace Rollup

variable {records : List HourlyRecord} {name : String}

/-! ### Cells under another average -/

theorem refill_cellAt (rate average : Float) (hour : Int64) :
    (cellAt records name average hour).refill rate = cellAt records name rate hour := by
  cases h : shown? records name hour with
  | some r =>
      rw [cellAt_of_shown h, cellAt_of_shown h]
      rfl
  | none =>
      rw [cellAt_of_not_shown h, cellAt_of_not_shown h]
      rfl

/-- A cell with a record is the same under every average. -/
theorem real_cellAt_congr (rate average : Float) (hours : List Int64) :
    (hours.map (cellAt records name rate)).filter (fun cell => !cell.isFilled)
      = (hours.map (cellAt records name average)).filter fun cell => !cell.isFilled := by
  induction hours with
  | nil => rfl
  | cons hour rest ih =>
      cases h : shown? records name hour with
      | some r => simp only [List.map_cons, cellAt_of_shown h, List.filter_cons, ih]
      | none =>
          simp only [List.map_cons, cellAt_of_not_shown h, List.filter_cons, ih, HourCell.filled,
            Bool.not_true, Bool.false_eq_true, if_false]

/-! ### Two lists of hours -/

theorem counts_append (count : HourlyRecord → Int64) (records : List HourlyRecord)
    (hours hours' : List Int64) (name : String) :
    counts count records (hours ++ hours') name
      = counts count records hours name ++ counts count records hours' name := by
  unfold counts
  rw [List.filterMap_append, List.map_append]

theorem addsUp_total (counts counts' : List Int64) :
    AddsUp (total (counts ++ counts')) (total counts) (total counts') where
  wrapped := total_append counts counts'
  exact_iff := by
    rw [total_append]
    exact toInt_add_eq_iff

/-- **A model over two lists of hours is made up of its models over each of them.** -/
theorem joins_ofModel (records : List HourlyRecord) (hours hours' : List Int64) (name : String) :
    (ofModel records (hours ++ hours') name).Joins (ofModel records hours name)
      (ofModel records hours' name) where
  totalSuccess := by
    rw [totalSuccess_ofModel, counts_append]
    exact addsUp_total _ _
  totalSlices := by
    rw [totalSlices_ofModel, counts_append]
    exact addsUp_total _ _
  realCells := by
    unfold ModelRollup.realCells
    rw [hourly_ofModel, hourly_ofModel, hourly_ofModel, List.reverse_append, List.map_append,
      List.filter_append]
    exact congrArg₂ (· ++ ·) (real_cellAt_congr _ _ _) (real_cellAt_congr _ _ _)
  hourly := by
    rw [hourly_ofModel, hourly_ofModel, hourly_ofModel, List.reverse_append, List.map_append,
      List.map_append, List.map_map, List.map_map]
    have hrefill : ∀ average rate : Float,
        HourCell.refill rate ∘ cellAt records name average = cellAt records name rate := by
      intro average rate
      funext hour
      exact refill_cellAt rate average hour
    rw [hrefill, hrefill]
  averageRate := rfl

/-- In a program that would have stopped the sum of the two totals fits. -/
theorem toInt_total_append {counts counts' : List Int64}
    (hjoint : Overflow.stops.Bears (counts ++ counts')) (hfirst : Overflow.stops.Bears counts)
    (hsecond : Overflow.stops.Bears counts') :
    (total (counts ++ counts')).toInt = (total counts).toInt + (total counts').toInt := by
  rw [toInt_total hjoint.fits, toInt_total hfirst.fits, toInt_total hsecond.fits,
    exactTotal_append]

/-- The totals of a model are exact sums of its partial ones, if the program would have stopped. -/
theorem exact_ofModel {hours hours' : List Int64}
    (hjoint : Overflow.stops.BearsModel records (hours ++ hours') name)
    (hfirst : Overflow.stops.BearsModel records hours name)
    (hsecond : Overflow.stops.BearsModel records hours' name) :
    (ofModel records (hours ++ hours') name).totalSuccess.toInt
        = (ofModel records hours name).totalSuccess.toInt
          + (ofModel records hours' name).totalSuccess.toInt ∧
      (ofModel records (hours ++ hours') name).totalSlices.toInt
        = (ofModel records hours name).totalSlices.toInt
          + (ofModel records hours' name).totalSlices.toInt := by
  obtain ⟨hsuccess, hslices⟩ := hjoint
  rw [counts_append] at hsuccess hslices
  simp only [totalSuccess_ofModel, totalSlices_ofModel, counts_append]
  exact ⟨toInt_total_append hsuccess hfirst.success hsecond.success,
    toInt_total_append hslices hfirst.slices hsecond.slices⟩

end Rollup

/-! ### Two windows -/

/-- A walk can be interrupted at any hour that it passes. -/
theorem walk_append {start middle stop : Int} (hle : middle ≤ stop)
    (h : (middle - start) % hourSeconds = 0) (hstart : start ≤ middle) :
    walk start stop = walk start middle ++ walk middle stop := by
  induction start using walk.induct middle with
  | case1 hour hlt ih =>
      unfold hourSeconds at h ih
      rw [walk_of_lt hlt, walk_of_lt (by omega), List.cons_append]
      exact congrArg (hour :: ·) (ih (by omega) (by omega))
  | case2 hour hnot =>
      obtain rfl : hour = middle := by omega
      rw [walk_of_le (Int.le_refl hour), List.nil_append]

namespace HourWindow

/-- **The axes of two windows that meet make up the axis of the window over both.** -/
theorem hours_append {start middle stop : Int64} {first second joint : HourWindow}
    (hfirst : between start middle = .ok first) (hsecond : between middle stop = .ok second)
    (hjoint : between start stop = .ok joint) : joint.hours = first.hours ++ second.hours := by
  obtain ⟨rfl, rfl⟩ := between_eq_ok_iff.mp hfirst
  obtain ⟨hmeet, rfl⟩ := between_eq_ok_iff.mp hsecond
  obtain ⟨hstart, hstop⟩ := between_eq_ok_iff.mp hjoint
  have hinjective : Function.Injective Int64.toInt := fun _ _ => Int64.toInt_inj.mp
  refine hinjective.list_map ?_
  have hlt := first.start_lt_stop
  have hlt' := second.start_lt_stop
  have haligned := first.start_aligned
  have haligned' := first.stop_aligned
  rw [List.map_append, map_hours, map_hours, map_hours, hstart, hstop, hmeet]
  rw [hmeet] at hlt'
  unfold hourSeconds at haligned haligned'
  refine walk_append (by omega) ?_ (by omega)
  unfold hourSeconds
  omega

end HourWindow

open Rollup

/--
**Looking at the hours in two parts splits the totals and changes nothing else.**  The models over
all hours are those over either part, and each is made up of its two partial ones; hours may come
twice or stand in both parts.  A program that goes on always has the three rollups; one that stops
has each of them unless it stops in the sums of a model, and has exact totals in what it has.  If
the parts are the hours of two windows that meet, then together they are the hours of the window
over both.
-/
theorem rollup_split (o : Overflow) (records : List HourlyRecord) (hours hours' : List Int64) :
    (∀ hours, o.rollup? records hours = none ↔
        ∃ name, name ≠ "" ∧ (∃ r ∈ records, r.modelName = name) ∧
          ¬ o.BearsModel records hours name) ∧
      (∀ hours name, Overflow.wraps.BearsModel records hours name) ∧
      (∀ joint first second, o.rollup? records (hours ++ hours') = some joint →
        o.rollup? records hours = some first → o.rollup? records hours' = some second →
        (joint.map (·.modelName)).Nodup ∧
        (joint.map (·.modelName)).Perm (first.map (·.modelName)) ∧
        (joint.map (·.modelName)).Perm (second.map (·.modelName)) ∧
        ∀ m ∈ joint, ∀ a ∈ first, ∀ b ∈ second, a.modelName = m.modelName →
          b.modelName = m.modelName → m.Joins a b ∧
          (o = .stops → m.totalSuccess.toInt = a.totalSuccess.toInt + b.totalSuccess.toInt ∧
            m.totalSlices.toInt = a.totalSlices.toInt + b.totalSlices.toInt)) ∧
      ∀ (start middle stop : Int64) (before after joint : HourWindow),
        HourWindow.between start middle = .ok before →
        HourWindow.between middle stop = .ok after →
        HourWindow.between start stop = .ok joint → joint.hours = before.hours ++ after.hours := by
  refine ⟨fun _ => Overflow.rollup?_eq_none_iff, Overflow.bearsModel_wraps records, ?_,
    fun _ _ _ _ _ _ => HourWindow.hours_append⟩
  intro joint first second hjoint hfirst hsecond
  obtain ⟨rfl, hbears⟩ := Overflow.rollup?_eq_some_iff.mp hjoint
  obtain ⟨rfl, hbears'⟩ := Overflow.rollup?_eq_some_iff.mp hfirst
  obtain ⟨rfl, hbears''⟩ := Overflow.rollup?_eq_some_iff.mp hsecond
  have hnames := perm_names records (hours ++ hours')
  refine ⟨hnames.nodup_iff.mpr (nodup_modelNames records),
    hnames.trans (perm_names records hours).symm, hnames.trans (perm_names records hours').symm, ?_⟩
  intro m hm a ha b hb hname hname'
  obtain ⟨name, hin, rfl⟩ := mem_rollup.mp hm
  obtain ⟨name', -, rfl⟩ := mem_rollup.mp ha
  obtain ⟨name'', -, rfl⟩ := mem_rollup.mp hb
  obtain rfl : name' = name := hname
  obtain rfl : name'' = name' := hname'
  refine ⟨joins_ofModel records hours hours' _, ?_⟩
  rintro rfl
  exact exact_ofModel (hbears _ hin) (hbears' _ hin) (hbears'' _ hin)

/-- An hour stands in both parts, one comes twice, and the windows meet at the epoch. -/
theorem rollup_split_patchy :
    let hours : List Int64 := [0, 3600, 0]
    let hours' : List Int64 := [7200, 0]
    let joint := ofModel patchyRecords (hours ++ hours') "fast"
    let first := ofModel patchyRecords hours "fast"
    let second := ofModel patchyRecords hours' "fast"
    Overflow.stops.rollup? patchyRecords (hours ++ hours')
        = some (rollup patchyRecords (hours ++ hours')) ∧
      joint.Joins first second ∧
      joint.totalSuccess.toInt = first.totalSuccess.toInt + second.totalSuccess.toInt ∧
      joint.totalSuccess = 9 ∧ joint.realCells.map (·.hourStart) = [0, 7200, 0, 0] ∧
      ∃ before after whole : HourWindow, HourWindow.between (-7200) 0 = .ok before ∧
        HourWindow.between 0 3600 = .ok after ∧ HourWindow.between (-7200) 3600 = .ok whole ∧
        before.hours ++ after.hours = [-7200, -3600, 0] := by
  intro hours hours' joint first second
  obtain ⟨-, -, hjoins, hwindows⟩ := rollup_split .stops patchyRecords hours hours'
  have hmem : ∀ hours, ofModel patchyRecords hours "fast" ∈ rollup patchyRecords hours :=
    fun hours => mem_rollup.mpr ⟨"fast", by decide, rfl⟩
  have hbears : ∀ hours'' ∈ [hours ++ hours', hours, hours'],
      Overflow.stops.rollup? patchyRecords hours'' = some (rollup patchyRecords hours'') := by
    intro hours'' hin
    refine Overflow.rollup?_of_bears fun name hname => ?_
    obtain rfl : name = "fast" := List.mem_singleton.mp hname
    simp only [List.mem_cons, List.not_mem_nil, or_false] at hin
    rcases hin with rfl | rfl | rfl <;> exact ⟨by decide, by decide⟩
  obtain ⟨-, -, -, hall⟩ := hjoins _ _ _ (hbears _ (by simp)) (hbears _ (by simp))
    (hbears _ (by simp))
  obtain ⟨hjoin, hexact⟩ := hall _ (hmem _) _ (hmem _) _ (hmem _) rfl rfl
  refine ⟨hbears _ (by simp), hjoin, (hexact rfl).1, by decide, by decide, _, _, _, rfl, rfl, rfl,
    ?_⟩
  rw [← hwindows (-7200) 0 3600 _ _ _ rfl rfl rfl]
  rfl

/-- Over two hours one program has another total than the sum of the two, and the other has none. -/
theorem rollup_split_heavy :
    (∀ hour ∈ ([0, 3600] : List Int64), ∃ m, Overflow.stops.rollup? heavyRecords [hour] = some [m] ∧
        m.totalSlices.toInt = 4611686018427387904) ∧
      Overflow.stops.rollup? heavyRecords [0, 3600] = none ∧
      ∃ m, Overflow.wraps.rollup? heavyRecords [0, 3600] = some [m] ∧
        m.totalSlices.toInt = -9223372036854775808 := by
  have hone : ∀ hours, rollup heavyRecords hours = [ofModel heavyRecords hours "m"] :=
    fun hours => List.mergeSort_singleton _
  refine ⟨fun hour hin => ⟨ofModel heavyRecords [hour] "m", ?_, ?_⟩, by decide +kernel,
    ofModel heavyRecords [0, 3600] "m", ?_, by decide +kernel⟩
  · rw [← hone]
    refine Overflow.rollup?_of_bears fun name hname => ?_
    obtain rfl : name = "m" := List.mem_singleton.mp hname
    simp only [List.mem_cons, List.not_mem_nil, or_false] at hin
    rcases hin with rfl | rfl <;> exact ⟨by decide, by decide⟩
  · simp only [List.mem_cons, List.not_mem_nil, or_false] at hin
    rcases hin with rfl | rfl <;> decide +kernel
  · rw [← hone]
    exact Overflow.rollup?_wraps _ _

end HealthBoard
