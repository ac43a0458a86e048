/-
The average of a trend lies between its extremes.

This is about rates that are fractions: a double may be off in its last place, and an average that
is rounded can come to lie outside of what it is the average of.  So the rates of a trend are read
here in any kind of numbers.  `TrendRates.ofRecords` says how they are made from the records, and
read in doubles they are those of the trend (`rates_ofRecords`); everything else reads them as
fractions.  The counts are added up exactly here, and so it is in a trend if the slices fit in 64
bits; if they do not, the average is made from what is left of them and can be anything.

The average is all successes over all slices.  Every record has successes in proportion to its
slices, and so its successes lie between the least and the greatest rate times its slices.  Summed
over all records that is the claim, multiplied by all slices; a record without slices adds nothing
on any side.  The searches for the extremes begin with one and with zero, which no rate is above or
below, so what they find is the rate of some record.
-/
import HealthBoard.Proofs.Health.Extremes
import HealthBoard.Proofs.Health.Overflow
import Mathlib.Algebra.Order.Field.Basic
import Mathlib.Data.Rat.Cast.Order
import Mathlib.Tactic.Linarith

namespace HealthBoard

/-- The rates of a trend, in any kind of numbers. -/
structure TrendRates (R : Type) where
  average : R
  least : R
  greatest : R

namespace TrendRates

variable {R : Type} [OfNat R 0] [OfNat R 1] [Div R] [LT R] [DecidableLT R]

/-- Successes per slice; without slices, zero. -/
def ratio (ofCount : Int → R) (success slices : Int) : R :=
  if 0 < slices then ofCount success / ofCount slices else 0

/-- The rates of records, of which `rate` tells what each one reports. -/
def ofRecords (ofCount : Int → R) (rate : HourlyRecord → R) (records : List HourlyRecord) :
    TrendRates R where
  average := ratio ofCount (exactTotal (records.map (·.successSlices)))
    (exactTotal (records.map (·.totalSlices)))
  least := (records.map rate).foldl (fun x y => if y < x then y else x) 1
  greatest := (records.map rate).foldl (fun x y => if x < y then y else x) 0

end TrendRates

/-- The rates of a trend, as doubles. -/
def TrendStats.rates (t : TrendStats) : TrendRates Float :=
  ⟨t.averageRate, t.leastRate, t.greatestRate⟩

/-- The rate by the slices of a record, as a fraction. -/
def HourlyRecord.fraction (r : HourlyRecord) : ℚ :=
  TrendRates.ratio (fun n => (n : ℚ)) r.successSlices.toInt r.totalSlices.toInt

/-- The rates of records that report their rates by slices, as fractions. -/
def fractions (records : List HourlyRecord) : TrendRates ℚ :=
  .ofRecords (fun n => (n : ℚ)) HourlyRecord.fraction records

variable {records : List HourlyRecord}

/-! ### One record -/

/-- The counts are not negative, and there are no more successes than slices. -/
def HourlyRecord.Sound (r : HourlyRecord) : Prop :=
  0 ≤ r.successSlices.toInt ∧ r.successSlices.toInt ≤ r.totalSlices.toInt

namespace HourlyRecord

variable {r : HourlyRecord}

/-- The successes are in proportion to the slices, also where there are none. -/
theorem Sound.fraction_mul (h : r.Sound) :
    r.fraction * r.totalSlices.toInt = r.successSlices.toInt := by
  obtain ⟨hsuccess, hslices⟩ := h
  unfold fraction TrendRates.ratio
  by_cases hpos : 0 < r.totalSlices.toInt
  · have hne : (r.totalSlices.toInt : ℚ) ≠ 0 := by
      rw [Int.cast_ne_zero]
      omega
    rw [if_pos hpos, div_mul_cancel₀ _ hne]
  · have hzero : r.successSlices.toInt = 0 := by omega
    rw [if_neg hpos, hzero, zero_mul, Int.cast_zero]

theorem Sound.fraction_nonneg (h : r.Sound) : 0 ≤ r.fraction := by
  obtain ⟨hsuccess, hslices⟩ := h
  unfold fraction TrendRates.ratio
  split
  · exact div_nonneg (Int.cast_nonneg hsuccess) (Int.cast_nonneg (hsuccess.trans hslices))
  · exact le_refl 0

theorem Sound.fraction_le_one (h : r.Sound) : r.fraction ≤ 1 := by
  obtain ⟨hsuccess, hslices⟩ := h
  unfold fraction TrendRates.ratio
  split
  · exact div_le_one_of_le₀ (Int.cast_le.mpr hslices)
      (Int.cast_nonneg (hsuccess.trans hslices))
  · exact zero_le_one

end HourlyRecord

/-! ### The extremes -/

theorem picks_min : Picks (· ≤ ·) fun x y : ℚ => if y < x then y else x where
  trans := fun hxy hyz => le_trans hxy hyz
  kept_or_taken := by
    intro x _ y
    by_cases h : y < x
    · rw [if_pos h]
      exact Or.inr ⟨rfl, le_refl y, h.le⟩
    · rw [if_neg h]
      exact Or.inl ⟨rfl, fun _ => not_lt.mp h⟩

theorem picks_max : Picks (fun x y => y ≤ x) fun x y : ℚ => if x < y then y else x where
  trans := fun hxy hyz => le_trans hyz hxy
  kept_or_taken := by
    intro x _ y
    by_cases h : x < y
    · rw [if_pos h]
      exact Or.inr ⟨rfl, le_refl y, h.le⟩
    · rw [if_neg h]
      exact Or.inl ⟨rfl, fun _ => not_lt.mp h⟩

/-- A search that begins with what no value is better than finds one of the values. -/
theorem IsBest.mem {le : ℚ → ℚ → Prop} {start best : ℚ} {values : List ℚ}
    (h : IsBest le start values best) (hanti : ∀ {x y}, le x y → le y x → x = y)
    (hself : ∀ x, le x x) (hstart : ∀ x ∈ values, le x start) (hne : values ≠ []) :
    best ∈ values := by
  rcases h.found with heq | hin
  · obtain ⟨x, hx⟩ := List.exists_mem_of_ne_nil values hne
    have hworse : le x best := heq ▸ hstart x hx
    rw [hanti (h.le_each x hx (hself x)) hworse]
    exact hx
  · exact hin

/-- The least rate is that of some record, and no record has less. -/
theorem least_fractions (hne : records ≠ []) (hsound : ∀ r ∈ records, r.Sound) :
    (∃ r ∈ records, r.fraction = (fractions records).least) ∧
      ∀ r ∈ records, (fractions records).least ≤ r.fraction := by
  have hbest : IsBest (· ≤ ·) 1 (records.map HourlyRecord.fraction) (fractions records).least :=
    picks_min.isBest_foldl _ le_rfl
  constructor
  · refine List.mem_map.mp (hbest.mem le_antisymm le_refl ?_ (by simpa using hne))
    intro x hx
    obtain ⟨r, hr, rfl⟩ := List.mem_map.mp hx
    exact (hsound r hr).fraction_le_one
  · exact fun r hr => hbest.le_each _ (List.mem_map_of_mem hr) le_rfl

theorem greatest_fractions (hne : records ≠ []) (hsound : ∀ r ∈ records, r.Sound) :
    (∃ r ∈ records, r.fraction = (fractions records).greatest) ∧
      ∀ r ∈ records, r.fraction ≤ (fractions records).greatest := by
  have hbest : IsBest (fun x y => y ≤ x) 0 (records.map HourlyRecord.fraction)
      (fractions records).greatest :=
    picks_max.isBest_foldl _ le_rfl
  constructor
  · refine List.mem_map.mp
      (hbest.mem (fun h h' => le_antisymm h' h) le_refl ?_ (by simpa using hne))
    intro x hx
    obtain ⟨r, hr, rfl⟩ := List.mem_map.mp hx
    exact (hsound r hr).fraction_nonneg
  · exact fun r hr => hbest.le_each _ (List.mem_map_of_mem hr) le_rfl

/-! ### The average -/

/-- What holds of the counts of each record, times some factor, holds of the totals. -/
theorem mul_exactTotal_le {a b : ℚ} {count count' : HourlyRecord → Int64}
    (h : ∀ r ∈ records, a * (count r).toInt ≤ b * (count' r).toInt) :
    a * exactTotal (records.map count) ≤ b * exactTotal (records.map count') := by
  induction records with
  | nil => exact le_of_eq (by simp [exactTotal])
  | cons r rest ih =>
      have hfirst := h r List.mem_cons_self
      have hrest := ih fun s hs => h s (List.mem_cons_of_mem r hs)
      have hcons : ∀ count : HourlyRecord → Int64,
          exactTotal ((r :: rest).map count) = (count r).toInt + exactTotal (rest.map count) :=
        fun _ => List.sum_cons
      rw [hcons, hcons, Int.cast_add, Int.cast_add, mul_add, mul_add]
      exact add_le_add hfirst hrest

/-- No record has more slices than all records together. -/
theorem slices_le_total (hsound : ∀ r ∈ records, r.Sound) {r : HourlyRecord} (hr : r ∈ records) :
    r.totalSlices.toInt ≤ exactTotal (records.map (·.totalSlices)) := by
  refine List.single_le_sum ?_ _ (List.mem_map_of_mem (List.mem_map_of_mem hr))
  intro n hn
  obtain ⟨_, hm, rfl⟩ := List.mem_map.mp hn
  obtain ⟨s, hs, rfl⟩ := List.mem_map.mp hm
  exact (hsound s hs).1.trans (hsound s hs).2

/-- The average lies between any two bounds of all rates. -/
theorem average_fractions (hsound : ∀ r ∈ records, r.Sound) {low high : ℚ}
    (hne : records ≠ []) (hlow : ∀ r ∈ records, low ≤ r.fraction)
    (hhigh : ∀ r ∈ records, r.fraction ≤ high) :
    low ≤ (fractions records).average ∧ (fractions records).average ≤ high := by
  unfold fractions TrendRates.ofRecords TrendRates.ratio
  by_cases hpos : 0 < exactTotal (records.map (·.totalSlices))
  · have hcast : (0 : ℚ) < exactTotal (records.map (·.totalSlices)) := by
      exact_mod_cast hpos
    -- Each record's successes are its rate times its slices, and slices are not negative.
    have hslices : ∀ r ∈ records, (0 : ℚ) ≤ r.totalSlices.toInt := fun r hr =>
      Int.cast_nonneg ((hsound r hr).1.trans (hsound r hr).2)
    have hbelow : low * (exactTotal (records.map (·.totalSlices)) : ℚ)
        ≤ 1 * (exactTotal (records.map (·.successSlices)) : ℚ) := by
      refine mul_exactTotal_le fun r hr => ?_
      rw [one_mul, ← (hsound r hr).fraction_mul]
      exact mul_le_mul_of_nonneg_right (hlow r hr) (hslices r hr)
    have habove : 1 * (exactTotal (records.map (·.successSlices)) : ℚ)
        ≤ high * (exactTotal (records.map (·.totalSlices)) : ℚ) := by
      refine mul_exactTotal_le fun r hr => ?_
      rw [one_mul, ← (hsound r hr).fraction_mul]
      exact mul_le_mul_of_nonneg_right (hhigh r hr) (hslices r hr)
    rw [one_mul] at hbelow habove
    rw [if_pos hpos]
    exact ⟨(le_div_iff₀ hcast).mpr hbelow, (div_le_iff₀ hcast).mpr habove⟩
  · -- No record has slices, so every rate is the zero that the average is.
    obtain ⟨r, hr⟩ := List.exists_mem_of_ne_nil records hne
    have hnone : ¬ 0 < r.totalSlices.toInt := fun h =>
      hpos (h.trans_le (slices_le_total hsound hr))
    have hzero : r.fraction = 0 := if_neg hnone
    rw [if_neg hpos]
    exact ⟨hzero ▸ hlow r hr, hzero ▸ hhigh r hr⟩

/-! ### The trend -/

/-- The counts are not negative, so that the sums on the way are no greater than the last. -/
theorem fits_success (hsound : ∀ r ∈ records, r.Sound)
    (hfits : Fits (exactTotal (records.map (·.totalSlices)))) :
    Fits (exactTotal (records.map (·.successSlices))) := by
  refine hfits.of_le (exactTotal_nonneg fun n hn => ?_) ?_
  · obtain ⟨r, hr, rfl⟩ := List.mem_map.mp hn
    exact (hsound r hr).1
  · unfold exactTotal
    rw [List.map_map, List.map_map]
    exact List.sum_le_sum fun r hr => (hsound r hr).2

/-- A program may stop at the requests only. -/
theorem bearsTrend_iff (hsound : ∀ r ∈ records, r.Sound)
    (hfits : Fits (exactTotal (records.map (·.totalSlices)))) (o : Overflow) :
    o.BearsTrend records ↔ o.Bears (records.map (·.totalRequests)) ∧
      o.Bears (records.map (·.errorRequests)) ∧ o.Bears (records.map (·.successRequests)) := by
  constructor
  · rintro ⟨-, -, hrequests, herrors, hsuccesses⟩
    exact ⟨hrequests, herrors, hsuccesses⟩
  · rintro ⟨hrequests, herrors, hsuccesses⟩
    refine ⟨.of_nonneg (fun n hn => ?_) fun _ => fits_success hsound hfits,
      .of_nonneg (fun n hn => ?_) fun _ => hfits, hrequests, herrors, hsuccesses⟩
    · obtain ⟨r, hr, rfl⟩ := List.mem_map.mp hn
      exact (hsound r hr).1
    · obtain ⟨r, hr, rfl⟩ := List.mem_map.mp hn
      exact (hsound r hr).1.trans (hsound r hr).2

/-- **The rates of a trend are these, read in doubles**, if the slices fit. -/
theorem rates_ofRecords (hne : records ≠ []) (hsound : ∀ r ∈ records, r.Sound)
    (hfits : Fits (exactTotal (records.map (·.totalSlices)))) :
    (TrendStats.ofRecords records).rates
      = .ofRecords Float.ofInt HourlyRecord.successRate records := by
  have haverage : weightedRate (total (records.map (·.successSlices)))
        (total (records.map (·.totalSlices)))
      = TrendRates.ratio Float.ofInt (exactTotal (records.map (·.successSlices)))
        (exactTotal (records.map (·.totalSlices))) := by
    unfold weightedRate
    rw [toInt_total hfits, toInt_total (fits_success hsound hfits)]
    rfl
  unfold TrendStats.ofRecords
  rw [if_neg (by simpa using hne)]
  unfold TrendStats.ofTotals TrendStats.rates
  simp only [haverage]
  rfl

/--
**The average of a trend lies between its extremes.**  There are records, none has more successes
than slices or a negative count, and all slices together fit in 64 bits.  A program that may stop at
a sum stops only at the sums of the requests.  The rates of a trend are made in the same way from
the rates of the records in doubles and in fractions; in fractions, with each record's rate being
its successes by its slices, the extremes are rates of records, and bound those of all records and
the average.
-/
theorem average_between_extremes (hne : records ≠ []) (hsound : ∀ r ∈ records, r.Sound)
    (hfits : Fits (exactTotal (records.map (·.totalSlices)))) (o : Overflow) :
    (o.trend? records = none ↔ ¬ (o.Bears (records.map (·.totalRequests)) ∧
        o.Bears (records.map (·.errorRequests)) ∧ o.Bears (records.map (·.successRequests)))) ∧
      (∀ counts, Overflow.wraps.Bears counts) ∧
      (∀ t, o.trend? records = some t →
        t.rates = .ofRecords Float.ofInt HourlyRecord.successRate records) ∧
      0 ≤ (fractions records).least ∧
      (fractions records).least ≤ (fractions records).average ∧
      (fractions records).average ≤ (fractions records).greatest ∧
      (fractions records).greatest ≤ 1 ∧
      (∃ r ∈ records, r.fraction = (fractions records).least) ∧
      (∃ r ∈ records, r.fraction = (fractions records).greatest) ∧
      ∀ r ∈ records, (fractions records).least ≤ r.fraction ∧
        r.fraction ≤ (fractions records).greatest := by
  obtain ⟨⟨r, hr, hleast⟩, hlow⟩ := least_fractions hne hsound
  obtain ⟨⟨s, hs, hgreatest⟩, hhigh⟩ := greatest_fractions hne hsound
  obtain ⟨hbelow, habove⟩ := average_fractions hsound hne hlow hhigh
  have hrates : ∀ t, o.trend? records = some t →
      t.rates = .ofRecords Float.ofInt HourlyRecord.successRate records := by
    intro t ht
    obtain ⟨rfl, -⟩ := Overflow.trend?_eq_some_iff.mp ht
    exact rates_ofRecords hne hsound hfits
  exact ⟨by rw [Overflow.trend?_eq_none_iff, bearsTrend_iff hsound hfits], Overflow.bears_wraps,
    hrates, hleast ▸ (hsound r hr).fraction_nonneg, hbelow, habove,
    hgreatest ▸ (hsound s hs).fraction_le_one, ⟨r, hr, hleast⟩, ⟨s, hs, hgreatest⟩,
    fun t ht => ⟨hlow t ht, hhigh t ht⟩⟩

/-- One record of four has no slices, and its rate is the least. -/
theorem average_between_extremes_idle :
    let records : List HourlyRecord :=
      [⟨"m", 0, 1, 4, 0, 0, 0, 0.25⟩, ⟨"m", 3600, 3, 4, 0, 0, 0, 0.75⟩,
        ⟨"m", 7200, 0, 0, 0, 0, 0, 0⟩, ⟨"m", 10800, 1, 2, 0, 0, 0, 0.5⟩]
    (fractions records).average = 1 / 2 ∧ (fractions records).least = 0 ∧
      (fractions records).greatest = 3 / 4 ∧
      0 ≤ (fractions records).least ∧
      (fractions records).least ≤ (fractions records).average ∧
      (fractions records).average ≤ (fractions records).greatest ∧
      (fractions records).greatest ≤ 1 ∧
      ∃ t, Overflow.stops.trend? records = some t ∧
        t.rates = .ofRecords Float.ofInt HourlyRecord.successRate records := by
  intro records
  have hne : records ≠ [] := by decide
  have hsound : ∀ r ∈ records, r.Sound := by
    simp only [HourlyRecord.Sound]
    decide
  obtain ⟨hnone, -, hrates, hnonneg, hbelow, habove, hone, -⟩ :=
    average_between_extremes hne hsound (by decide) .stops
  obtain ⟨t, ht⟩ := Option.ne_none_iff_exists'.mp (mt hnone.mp (not_not.mpr (by decide)))
  exact ⟨by decide +kernel, by decide +kernel, by decide +kernel, hnonneg, hbelow, habove, hone, t,
    ht, hrates t ht⟩

/-- Where the slices do not fit, one program has an average below every rate and the other has none.
-/
theorem average_between_extremes_heavy :
    heavyRecords ≠ [] ∧ (∀ r ∈ heavyRecords, r.Sound ∧ r.fraction = 1 ∧ r.successRate = 1) ∧
      (∃ t, Overflow.wraps.trend? heavyRecords = some t ∧ t.averageRate = 0 ∧ t.leastRate = 1 ∧
        ¬ t.leastRate ≤ t.averageRate) ∧
      Overflow.stops.trend? heavyRecords = none := by
  have hnone : (Overflow.stops.trend? heavyRecords).isNone := by decide +kernel
  refine ⟨by decide, ?_, ⟨.ofRecords heavyRecords, rfl, ?_, ?_, ?_⟩,
    Option.isNone_iff_eq_none.mp hnone⟩
  · intro r hr
    simp only [heavyRecords, List.mem_cons, List.not_mem_nil, or_false] at hr
    rcases hr with rfl | rfl
    · exact ⟨⟨by decide, by decide⟩, by decide +kernel, rfl⟩
    · exact ⟨⟨by decide, by decide⟩, by decide +kernel, rfl⟩
  · rfl
  · decide +kernel
  · decide +kernel

end HealthBoard
