/-
The two ways to add up one model.

The operators' view folds over the records of a model.  The public view goes over the hours and
looks up a record for each, and leaves out a record without slices.  Where no hour has two records
and all of them are among the hours, the hours with a record and the records are the same in number,
each record is looked up once, and what is left out would have added nothing: its successes are no
more than its slices, of which it has none.  So the totals agree, and with them the averages, which
are computed from the totals alone.

A sum does not hang on the order of the records, and neither does what is looked up.  The least and
the greatest rate of a trend are found by comparing, and the two zeros count as one number there.

A program that stops at a sum stops in the public view only if the slices do not fit in 64 bits,
since none of these counts is negative.  In the operators' view it may also stop at the requests, of
which nothing is known, and there it depends on the order in which they come.
-/
import HealthBoard.Proofs.Health.Agreement
import HealthBoard.Proofs.Health.Cells
import HealthBoard.Proofs.Health.Extremes

namespace HealthBoard

/-- Records of one model, at most one for an hour, with no more successes than slices. -/
structure OneModel (name : String) (records : List HourlyRecord) : Prop where
  named : name ≠ ""
  nonempty : records ≠ []
  modelName : ∀ r ∈ records, r.modelName = name
  distinct : (records.map (·.hourStart)).Nodup
  sound : ∀ r ∈ records,
    0 ≤ r.successSlices.toInt ∧ r.successSlices.toInt ≤ r.totalSlices.toInt

/-- The same figures; of the extreme rates, that they are the same numbers. -/
structure TrendStats.SameFigures (t t' : TrendStats) : Prop where
  averageRate : t.averageRate = t'.averageRate
  leastRate : (t.leastRate == t'.leastRate) = true
  greatestRate : (t.greatestRate == t'.greatestRate) = true
  totalSuccess : t.totalSuccess = t'.totalSuccess
  totalSlices : t.totalSlices = t'.totalSlices
  totalRequests : t.totalRequests = t'.totalRequests
  errorRequests : t.errorRequests = t'.errorRequests
  successRequests : t.successRequests = t'.successRequests

open Rollup

variable {name : String} {records records' : List HourlyRecord} {hours : List Int64}

/-! ### The rollup of one model -/

theorem standing_of_nodup (h : (records.map key).Nodup) : standing records = records := by
  induction records with
  | nil => rfl
  | cons r rest ih =>
      obtain ⟨hfresh, hrest⟩ := List.nodup_cons.mp h
      rw [standing, if_neg hfresh, ih hrest]

/-- Leaving out what counts as zero leaves a sum alone. -/
theorem sum_filter_of_zero {keeps : HourlyRecord → Bool} {count : HourlyRecord → Int}
    (h : ∀ r ∈ records, keeps r = false → count r = 0) :
    ((records.filter keeps).map count).sum = (records.map count).sum := by
  induction records with
  | nil => rfl
  | cons r rest ih =>
      have hrest := ih fun s hs => h s (List.mem_cons_of_mem r hs)
      by_cases hr : keeps r = true
      · rw [List.filter_cons_of_pos hr, List.map_cons, List.map_cons, List.sum_cons,
          List.sum_cons, hrest]
      · have hzero := h r List.mem_cons_self (by simpa using hr)
        rw [List.filter_cons_of_neg hr, List.map_cons, List.sum_cons, hrest, hzero, Int.zero_add]

namespace OneModel

theorem nodup_keys (h : OneModel name records) : (records.map key).Nodup :=
  List.Nodup.of_map Prod.snd (by simpa [Function.comp_def, key] using h.distinct)

theorem perm (h : OneModel name records) (hperm : records.Perm records') :
    OneModel name records' where
  named := h.named
  nonempty := by
    intro hnil
    rw [hnil] at hperm
    exact h.nonempty hperm.eq_nil
  modelName := fun r hr => h.modelName r (hperm.mem_iff.mpr hr)
  distinct := (hperm.map _).nodup_iff.mp h.distinct
  sound := fun r hr => h.sound r (hperm.mem_iff.mpr hr)

theorem modelNames_eq (h : OneModel name records) : modelNames records = [name] := by
  refine List.perm_singleton.mp ((List.perm_ext_iff_of_nodup (nodup_modelNames records)
    (List.nodup_singleton name)).mpr fun other => ?_)
  rw [mem_modelNames, List.mem_singleton]
  constructor
  · rintro ⟨-, r, hr, rfl⟩
    exact h.modelName r hr
  · rintro rfl
    obtain ⟨r, hr⟩ := List.exists_mem_of_ne_nil records h.nonempty
    exact ⟨h.named, r, hr, h.modelName r hr⟩

theorem rollup_eq (h : OneModel name records) (hours : List Int64) :
    rollup records hours = [ofModel records hours name] := by
  rw [rollup_eq_mergeSort, h.modelNames_eq, List.map_singleton, List.mergeSort_singleton]

/-- **Looking up every hour adds up every record**, if a record without slices counts nothing. -/
theorem exactTotal_counts_eq (h : OneModel name records) (hnodup : hours.Nodup)
    (hin : ∀ r ∈ records, r.hourStart ∈ hours) {count : HourlyRecord → Int64}
    (hcount : ∀ r ∈ records, r.totalSlices.toInt = 0 → (count r).toInt = 0) :
    exactTotal (counts count records hours name) = exactTotal (records.map count) := by
  have hgrid : exactTotal (counts count records hours name)
      = ∑ place ∈ ({name} : Finset String) ×ˢ hours.toFinset,
          placeCount (fun r => (count r).toInt) records place := by
    rw [exactTotal_counts, Finset.sum_product, Finset.sum_singleton, List.sum_toFinset _ hnodup]
  have hrecords : exactTotal (records.map count) = (records.map fun r => (count r).toInt).sum :=
    congrArg List.sum (List.map_map ..)
  rw [hgrid, sum_grid, standing_of_nodup h.nodup_keys, hrecords]
  refine sum_filter_of_zero fun r hr hleft => hcount r hr ?_
  have hplace : key r ∈ ({name} : Finset String) ×ˢ hours.toFinset := by
    rw [Finset.mem_product, Finset.mem_singleton, List.mem_toFinset]
    exact ⟨h.modelName r hr, hin r hr⟩
  have hnone : ¬ (0 < r.totalSlices.toInt) := fun hpos =>
    (of_decide_eq_false hleft) ⟨hplace, decide_eq_true hpos⟩
  have hsound := h.sound r hr
  omega

theorem exactTotal_success (h : OneModel name records) (hnodup : hours.Nodup)
    (hin : ∀ r ∈ records, r.hourStart ∈ hours) :
    exactTotal (counts (·.successSlices) records hours name)
      = exactTotal (records.map (·.successSlices)) := by
  refine h.exactTotal_counts_eq hnodup hin fun r hr hnone => ?_
  have hsound := h.sound r hr
  omega

theorem exactTotal_slices (h : OneModel name records) (hnodup : hours.Nodup)
    (hin : ∀ r ∈ records, r.hourStart ∈ hours) :
    exactTotal (counts (·.totalSlices) records hours name)
      = exactTotal (records.map (·.totalSlices)) :=
  h.exactTotal_counts_eq hnodup hin fun _ _ hnone => hnone

/-- No more successes than slices are added up, and neither of them is negative. -/
theorem bears_slices_iff (h : OneModel name records) (hnodup : hours.Nodup)
    (hin : ∀ r ∈ records, r.hourStart ∈ hours) (o : Overflow) :
    o.BearsModel records hours name ↔
      (o = .stops → Fits (exactTotal (records.map (·.totalSlices)))) := by
  have hshown : ∀ r ∈ hours.filterMap (shown? records name),
      0 ≤ r.successSlices.toInt ∧ r.successSlices.toInt ≤ r.totalSlices.toInt := by
    intro r hr
    obtain ⟨hour, -, hshown⟩ := List.mem_filterMap.mp hr
    exact h.sound r (mem_of_shown? hshown)
  have hsuccess : ∀ n ∈ counts (·.successSlices) records hours name, 0 ≤ n.toInt := by
    intro n hn
    obtain ⟨r, hr, rfl⟩ := List.mem_map.mp hn
    exact (hshown r hr).1
  have hslices : ∀ n ∈ counts (·.totalSlices) records hours name, 0 ≤ n.toInt := by
    intro n hn
    obtain ⟨r, hr, rfl⟩ := List.mem_map.mp hn
    exact (hshown r hr).1.trans (hshown r hr).2
  constructor
  · rintro ⟨-, hbears⟩ rfl
    rw [← h.exactTotal_slices hnodup hin]
    exact hbears.fits
  · intro hfits
    have hle : exactTotal (counts (·.successSlices) records hours name)
        ≤ exactTotal (counts (·.totalSlices) records hours name) := by
      unfold exactTotal counts
      rw [List.map_map, List.map_map]
      exact List.sum_le_sum fun r hr => (hshown r hr).2
    rw [← h.exactTotal_slices hnodup hin] at hfits
    refine ⟨.of_nonneg hsuccess fun hstops => ?_, .of_nonneg hslices hfits⟩
    exact (hfits hstops).of_le (exactTotal_nonneg hsuccess) hle

theorem rollup_perm (h : OneModel name records) (hperm : records.Perm records')
    (hours : List Int64) : rollup records' hours = rollup records hours := by
  have hagree : Agree records records' := agree_of_edits (edits_of_perm hperm h.nodup_keys)
  rw [h.rollup_eq, (h.perm hperm).rollup_eq, hagree.ofModel_eq h.named]

end OneModel

/-! ### The trend of one model -/

/-- The figures of a trend that has records. -/
theorem ofRecords_of_ne_nil (h : records ≠ []) :
    TrendStats.ofRecords records
      = .ofTotals records (total (records.map (·.successSlices)))
          (total (records.map (·.totalSlices))) (total (records.map (·.totalRequests)))
          (total (records.map (·.errorRequests))) (total (records.map (·.successRequests))) := by
  unfold TrendStats.ofRecords
  rw [if_neg (by simpa using h)]

theorem sameFigures_of_perm (h : records.Perm records') :
    (TrendStats.ofRecords records').SameFigures (TrendStats.ofRecords records) := by
  by_cases hnil : records = []
  · have hnil' : records' = [] := (hnil ▸ h).nil_eq.symm
    rw [hnil, hnil']
    exact ⟨rfl, by decide, by decide, rfl, rfl, rfl, rfl, rfl⟩
  · have hnil' : records' ≠ [] := by
      rintro rfl
      exact hnil h.eq_nil
    have hsum : ∀ count : HourlyRecord → Int64,
        total (records'.map count) = total (records.map count) :=
      fun count => total_perm (h.symm.map count)
    have hrates := h.symm.map (·.successRate)
    rw [ofRecords_of_ne_nil hnil, ofRecords_of_ne_nil hnil']
    exact ⟨congrArg₂ weightedRate (hsum _) (hsum _), lesser_beq_of_perm hrates (by decide),
      greater_beq_of_perm hrates (by decide), hsum _, hsum _, hsum _, hsum _, hsum _⟩

namespace OneModel

theorem sameTotals (h : OneModel name records) (hnodup : hours.Nodup)
    (hin : ∀ r ∈ records, r.hourStart ∈ hours) :
    (ofModel records hours name).totalSuccess = (TrendStats.ofRecords records).totalSuccess ∧
      (ofModel records hours name).totalSlices = (TrendStats.ofRecords records).totalSlices ∧
      (ofModel records hours name).averageRate = (TrendStats.ofRecords records).averageRate := by
  have hsuccess : total (counts (·.successSlices) records hours name)
      = total (records.map (·.successSlices)) := by
    rw [total_eq_ofInt, total_eq_ofInt, h.exactTotal_success hnodup hin]
  have hslices : total (counts (·.totalSlices) records hours name)
      = total (records.map (·.totalSlices)) := by
    rw [total_eq_ofInt, total_eq_ofInt, h.exactTotal_slices hnodup hin]
  rw [ofRecords_of_ne_nil h.nonempty]
  exact ⟨hsuccess, hslices, congrArg₂ weightedRate hsuccess hslices⟩

theorem rollup?_eq_none_iff (h : OneModel name records) (hnodup : hours.Nodup)
    (hin : ∀ r ∈ records, r.hourStart ∈ hours) (o : Overflow) :
    o.rollup? records hours = none ↔
      o = .stops ∧ ¬ Fits (exactTotal (records.map (·.totalSlices))) := by
  rw [Overflow.rollup?_eq_none_iff_not, h.modelNames_eq, List.forall_mem_singleton,
    h.bears_slices_iff hnodup hin, Classical.not_imp]

end OneModel

/--
**Both views of one model have the same totals and the same average.**  The model has records for
different hours, all of them asked for and none of them twice, and no record has more successes than
slices.  Then it is the only one of the rollup, and neither the rollup nor the trend hangs on the
order of the records.  A program that goes on has both; one that stops has no rollup exactly if the
slices do not fit in 64 bits, and then no trend either, which it may also stop in for the sake of
the requests.
-/
theorem rollup_eq_trend (h : OneModel name records) (hnodup : hours.Nodup)
    (hin : ∀ r ∈ records, r.hourStart ∈ hours) (o : Overflow) :
    (o.rollup? records hours = none ↔
        o = .stops ∧ ¬ Fits (exactTotal (records.map (·.totalSlices)))) ∧
    (o.trend? records = none ↔ ¬ o.BearsTrend records) ∧ Overflow.wraps.BearsTrend records ∧
    (o.rollup? records hours = none → o.trend? records = none) ∧
    (∀ models t, o.rollup? records hours = some models → o.trend? records = some t →
      ∃ m, models = [m] ∧ m.totalSuccess = t.totalSuccess ∧ m.totalSlices = t.totalSlices ∧
        m.averageRate = t.averageRate) ∧
    ∀ records', records.Perm records' → o.rollup? records' hours = o.rollup? records hours ∧
      ∀ t t', o.trend? records = some t → o.trend? records' = some t' → t'.SameFigures t := by
  have hstops := h.rollup?_eq_none_iff hnodup hin o
  refine ⟨hstops, Overflow.trend?_eq_none_iff, Overflow.bearsTrend_wraps records, ?_, ?_, ?_⟩
  · intro hnone
    obtain ⟨rfl, hfits⟩ := hstops.mp hnone
    exact Overflow.trend?_eq_none_iff.mpr fun hbears => hfits hbears.slices.fits
  · intro models t hmodels ht
    obtain ⟨rfl, -⟩ := Overflow.rollup?_eq_some_iff.mp hmodels
    obtain ⟨rfl, -⟩ := Overflow.trend?_eq_some_iff.mp ht
    exact ⟨ofModel records hours name, h.rollup_eq hours, h.sameTotals hnodup hin⟩
  · intro records' hperm
    have hagree : Agree records records' := agree_of_edits (edits_of_perm hperm h.nodup_keys)
    refine ⟨Option.ext fun models => ?_, fun t t' ht ht' => ?_⟩
    · rw [Overflow.rollup?_eq_some_iff, Overflow.rollup?_eq_some_iff, hagree.bears_iff o hours,
        h.rollup_perm hperm hours]
    · obtain ⟨rfl, -⟩ := Overflow.trend?_eq_some_iff.mp ht
      obtain ⟨rfl, -⟩ := Overflow.trend?_eq_some_iff.mp ht'
      exact sameFigures_of_perm hperm

/-- Three hours of four, one of them without slices. -/
theorem rollup_eq_trend_gaps :
    let records : List HourlyRecord :=
      [⟨"m", 7200, 1, 4, 10, 30, 40, 0.25⟩, ⟨"m", 0, 0, 0, 0, 0, 0, 0⟩,
        ⟨"m", 3600, 5, 5, 50, 0, 50, 1⟩]
    let hours : List Int64 := [0, 3600, 7200, 10800]
    OneModel "m" records ∧ ∀ o : Overflow, ∃ models t m, o.rollup? records hours = some models ∧
      o.trend? records = some t ∧ models = [m] ∧ m.totalSuccess = t.totalSuccess ∧
      m.totalSlices = t.totalSlices ∧ m.averageRate = t.averageRate ∧
      o.rollup? records.reverse hours = some models := by
  intro records hours
  have hone : OneModel "m" records := ⟨by decide, by decide, by decide, by decide, by decide⟩
  have hnodup : hours.Nodup := by decide
  refine ⟨hone, fun o => ?_⟩
  obtain ⟨hnone, htrend, -, -, hsame, hperm⟩ := rollup_eq_trend hone hnodup (by decide) o
  have hmodels : o.rollup? records hours ≠ none := fun hmissing =>
    (hnone.mp hmissing).2 (by decide)
  have hbears : o.BearsTrend records := by
    cases o <;> exact ⟨by decide, by decide, by decide, by decide, by decide⟩
  obtain ⟨models, hmodels⟩ := Option.ne_none_iff_exists'.mp hmodels
  obtain ⟨t, ht⟩ := Option.ne_none_iff_exists'.mp (mt htrend.mp (not_not.mpr hbears))
  obtain ⟨m, hm, hsuccess, hslices, haverage⟩ := hsame models t hmodels ht
  exact ⟨models, t, m, hmodels, ht, hm, hsuccess, hslices, haverage,
    (hperm _ (List.reverse_perm records).symm).1.trans hmodels⟩

/-- A program that stops at a sum has neither of the two views. -/
theorem rollup_eq_trend_stops :
    OneModel "m" heavyRecords ∧ ([0, 3600] : List Int64).Nodup ∧
      (∀ r ∈ heavyRecords, r.hourStart ∈ ([0, 3600] : List Int64)) ∧
      ¬ ∃ m t, Overflow.stops.rollup? heavyRecords [0, 3600] = some [m] ∧
        Overflow.stops.trend? heavyRecords = some t ∧ m.totalSlices = t.totalSlices := by
  refine ⟨⟨by decide, by decide, by decide, by decide, by decide⟩, by decide, by decide, ?_⟩
  rintro ⟨m, t, -, ht, -⟩
  have hnone : (Overflow.stops.trend? heavyRecords).isNone := by decide +kernel
  rw [ht] at hnone
  cases hnone

end HealthBoard
