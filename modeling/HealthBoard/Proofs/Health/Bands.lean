/-
Levels as bands of rates.

The level of a rate is the highest whose cut-off the rate reaches: it reaches the cut-off of its own
level (`reaches_classify`), and none of a higher one (`rank_le_classify`).  Nothing is asked of the
cut-offs for that.  What reaches a cut-off, everything above it reaches too, and a cut-off that is
no number is reached by nothing; so whatever the cut-offs are, a better rate is never judged worse.

Cut-offs that are accepted are rates and descend.  Then each level but the lowest has a band of its
own, from its cut-off up to the next one, and a rate has the level whose band it lies in.
-/
import HealthBoard.Proofs.Health.Level

namespace HealthBoard

theorem HealthLevel.isLE_compare_iff {a b : HealthLevel} :
    (compare a b).isLE = true ↔ a.rank ≤ b.rank :=
  Nat.isLE_compare

namespace ThresholdSet

/-- The cut-off of a level.  Everything is critical that reaches none. -/
def cutOff? (t : ThresholdSet) : HealthLevel → Option Float
  | .excellent => some t.excellent
  | .good => some t.good
  | .warning => some t.warning
  | .poor => some t.poor
  | .critical => none

variable {t : ThresholdSet} {level : HealthLevel} {rate cutOff : Float}

/-! ### Whatever the cut-offs are -/

theorem rank_le_classify (hcut : t.cutOff? level = some cutOff) (h : cutOff ≤ counted rate) :
    level.rank ≤ (t.classify rate).rank := by
  rw [classify_eq]
  cases level with
  | critical => exact Nat.zero_le _
  | poor =>
      obtain rfl := Option.some.inj hcut
      rw [if_pos h]
      split_ifs <;> decide
  | warning =>
      obtain rfl := Option.some.inj hcut
      rw [if_pos h]
      split_ifs <;> decide
  | good =>
      obtain rfl := Option.some.inj hcut
      rw [if_pos h]
      split_ifs <;> decide
  | excellent =>
      obtain rfl := Option.some.inj hcut
      rw [if_pos h]

theorem reaches_classify (hcut : t.cutOff? (t.classify rate) = some cutOff) :
    cutOff ≤ counted rate := by
  rw [classify_eq] at hcut
  split_ifs at hcut with hexcellent hgood hwarning hpoor
  · exact Option.some.inj hcut ▸ hexcellent
  · exact Option.some.inj hcut ▸ hgood
  · exact Option.some.inj hcut ▸ hwarning
  · exact Option.some.inj hcut ▸ hpoor
  · cases hcut

/-- A better rate is never judged worse. -/
theorem classify_mono {x y : Float} (h : counted x ≤ counted y) :
    (t.classify x).rank ≤ (t.classify y).rank := by
  cases hcut : t.cutOff? (t.classify x) with
  | some cutOff => exact rank_le_classify hcut (Double.le_trans (reaches_classify hcut) h)
  | none =>
      cases hlevel : t.classify x with
      | critical => exact Nat.zero_le _
      | poor | warning | good | excellent =>
          rw [hlevel] at hcut
          cases hcut

/-! ### Rates -/

theorem isRate_eq_true_iff {x : Float} : isRate x = true ↔ 0 ≤ x ∧ x ≤ 1 := by
  unfold isRate
  rw [Bool.and_eq_true, Bool.and_eq_true, decide_eq_true_eq, decide_eq_true_eq, and_assoc]
  exact and_iff_right_of_imp fun h => Double.isFinite_of_unit h.1 h.2

theorem counted_of_rate {x : Float} (h : 0 ≤ x) (h' : x ≤ 1) : counted x = x := by
  unfold counted
  rw [if_pos (isRate_eq_true_iff.mpr ⟨h, h'⟩)]

theorem counted_of_not_rate {x : Float} (h : ¬ isRate x = true) : counted x = counted 0 := by
  unfold counted
  rw [if_neg h, if_pos (isRate_eq_true_iff.mpr (by decide))]

/-- What is no number, is infinite or lies outside counts as zero. -/
theorem not_isRate {x : Float} (h : x.isNaN = true ∨ x.isInf = true ∨ x < 0 ∨ 1 < x) :
    ¬ isRate x = true := by
  intro hrate
  obtain ⟨hlow, hhigh⟩ := isRate_eq_true_iff.mp hrate
  have hfinite := Double.isFinite_of_unit hlow hhigh
  rcases h with hnan | hinf | hneg | hbig
  · exact absurd hfinite (by rw [Double.isFinite_eq_false_iff.mpr (.inl hnan)]; decide)
  · exact absurd hfinite (by rw [Double.isFinite_eq_false_iff.mpr (.inr hinf)]; decide)
  · exact Double.not_le_of_lt hneg hlow
  · exact Double.not_le_of_lt hbig hhigh

/-! ### Cut-offs that are accepted -/

/-- Among numbers no step up or on the level is left exactly if all steps go down. -/
theorem hasStep_eq_false_iff {cs : List Float} (h : ∀ c ∈ cs, c ≤ c) :
    hasStep cs = false ↔ cs.IsChain fun a b => b < a := by
  induction cs with
  | nil => simp [hasStep]
  | cons a rest ih =>
      cases rest with
      | nil => simp [hasStep]
      | cons b rest =>
          have hab : ¬ a ≤ b ↔ b < a := Double.not_le_iff (h a (by simp)) (h b (by simp))
          unfold hasStep
          rw [Bool.or_eq_false_iff, decide_eq_false_iff_not, hab, List.isChain_cons_cons,
            ih fun c hc => h c (List.mem_cons_of_mem a hc)]

/-- The cut-offs are rates and descend. -/
structure Descends (t : ThresholdSet) : Prop where
  rates : ∀ c ∈ t.cutOffs, c.isFinite = true ∧ 0 ≤ c ∧ c ≤ 1
  good_lt : t.good < t.excellent
  warning_lt : t.warning < t.good
  poor_lt : t.poor < t.warning

theorem validate_eq_ok_iff : t.validate = .ok () ↔ t.Descends := by
  have hrates : (t.cutOffs.any fun c => !isRate c) = false ↔ ∀ c ∈ t.cutOffs, 0 ≤ c ∧ c ≤ 1 := by
    simp only [List.any_eq_false, Bool.not_eq_true', Bool.not_eq_false, isRate_eq_true_iff]
  have hsteps (h : ∀ c ∈ t.cutOffs, 0 ≤ c ∧ c ≤ 1) : hasStep t.cutOffs = false ↔
      t.good < t.excellent ∧ t.warning < t.good ∧ t.poor < t.warning := by
    rw [hasStep_eq_false_iff fun c hc => Double.le_self_of_le (h c hc).1]
    simp [cutOffs]
  have hok : t.validate = .ok () ↔
      (t.cutOffs.any fun c => !isRate c) = false ∧ hasStep t.cutOffs = false := by
    unfold validate
    split_ifs <;> simp [*]
  rw [hok, hrates]
  constructor
  · rintro ⟨hall, hstep⟩
    obtain ⟨hgood, hwarning, hpoor⟩ := (hsteps hall).mp hstep
    refine ⟨fun c hc => ?_, hgood, hwarning, hpoor⟩
    obtain ⟨hlow, hhigh⟩ := hall c hc
    exact ⟨Double.isFinite_of_unit hlow hhigh, hlow, hhigh⟩
  · rintro ⟨hall, hgood, hwarning, hpoor⟩
    have hunit : ∀ c ∈ t.cutOffs, 0 ≤ c ∧ c ≤ 1 := fun c hc => (hall c hc).2
    exact ⟨hunit, (hsteps hunit).mpr ⟨hgood, hwarning, hpoor⟩⟩

/-! ### Bands -/

/-- A rate lies in the band of a level: it reaches the cut-off and not the next one. -/
inductive InBand (t : ThresholdSet) (rate : Float) : HealthLevel → Prop
  | excellent (h : t.excellent ≤ rate) : InBand t rate .excellent
  | good (h : t.good ≤ rate) (hnext : rate < t.excellent) : InBand t rate .good
  | warning (h : t.warning ≤ rate) (hnext : rate < t.good) : InBand t rate .warning
  | poor (h : t.poor ≤ rate) (hnext : rate < t.warning) : InBand t rate .poor
  | critical (hnext : rate < t.poor) : InBand t rate .critical

theorem inBand_classify (ht : t.Descends) (h : 0 ≤ rate) (h' : rate ≤ 1) :
    t.InBand rate (t.classify rate) := by
  have hbelow : ∀ c ∈ t.cutOffs, ¬ c ≤ rate → rate < c := fun c hc =>
    Double.lt_of_not_le (Double.le_self_of_le (ht.rates c hc).2.1) (Double.le_self_of_le h)
  rw [classify_eq, counted_of_rate h h']
  split_ifs with hexcellent hgood hwarning hpoor
  · exact .excellent hexcellent
  · exact .good hgood (hbelow _ (by simp [cutOffs]) hexcellent)
  · exact .warning hwarning (hbelow _ (by simp [cutOffs]) hgood)
  · exact .poor hpoor (hbelow _ (by simp [cutOffs]) hwarning)
  · exact .critical (hbelow _ (by simp [cutOffs]) hpoor)

/-- What is below a cut-off is below all higher ones. -/
theorem InBand.classify_eq (ht : t.Descends) (h : 0 ≤ rate) (h' : rate ≤ 1)
    (hband : t.InBand rate level) : t.classify rate = level := by
  rw [ThresholdSet.classify_eq, counted_of_rate h h']
  cases hband with
  | excellent hreach => rw [if_pos hreach]
  | good hreach hexcellent => rw [if_neg (Double.not_le_of_lt hexcellent), if_pos hreach]
  | warning hreach hgood =>
      have hexcellent := Double.lt_trans hgood ht.good_lt
      rw [if_neg (Double.not_le_of_lt hexcellent), if_neg (Double.not_le_of_lt hgood),
        if_pos hreach]
  | poor hreach hwarning =>
      have hgood := Double.lt_trans hwarning ht.warning_lt
      have hexcellent := Double.lt_trans hgood ht.good_lt
      rw [if_neg (Double.not_le_of_lt hexcellent), if_neg (Double.not_le_of_lt hgood),
        if_neg (Double.not_le_of_lt hwarning), if_pos hreach]
  | critical hpoor =>
      have hwarning := Double.lt_trans hpoor ht.poor_lt
      have hgood := Double.lt_trans hwarning ht.warning_lt
      have hexcellent := Double.lt_trans hgood ht.good_lt
      rw [if_neg (Double.not_le_of_lt hexcellent), if_neg (Double.not_le_of_lt hgood),
        if_neg (Double.not_le_of_lt hwarning), if_neg (Double.not_le_of_lt hpoor)]

theorem mem_cutOffs_of_cutOff? (h : t.cutOff? level = some cutOff) : cutOff ∈ t.cutOffs := by
  unfold cutOffs
  cases level with
  | critical => cases h
  | poor | warning | good | excellent =>
      obtain rfl := Option.some.inj h
      simp

/-- A cut-off lies at the beginning of its own band. -/
theorem inBand_cutOff (ht : t.Descends) (h : t.cutOff? level = some cutOff) :
    t.InBand cutOff level := by
  have hself : cutOff ≤ cutOff :=
    Double.le_self_of_le (ht.rates cutOff (mem_cutOffs_of_cutOff? h)).2.1
  cases level with
  | critical => cases h
  | poor =>
      obtain rfl := Option.some.inj h
      exact .poor hself ht.poor_lt
  | warning =>
      obtain rfl := Option.some.inj h
      exact .warning hself ht.warning_lt
  | good =>
      obtain rfl := Option.some.inj h
      exact .good hself ht.good_lt
  | excellent =>
      obtain rfl := Option.some.inj h
      exact .excellent hself

/--
**A better rate is never judged worse, and by cut-offs that are accepted each rate by its band.**
The first holds of all sets of cut-offs, also of those that hold no numbers or are not in order.
What is no rate is judged like zero.  Accepted are the sets of descending rates; they judge a rate
by the one band that it lies in, and a cut-off by the band that it begins.
-/
theorem classify_bands (t : ThresholdSet) :
    [HealthLevel.critical, .poor, .warning, .good, .excellent].Pairwise
      (fun a b => compare a b = .lt) ∧
    (∀ x y : Float, 0 ≤ x → x ≤ y → y ≤ 1 →
      (compare (t.classify x) (t.classify y)).isLE = true) ∧
    (∀ x : Float, x.isNaN = true ∨ x.isInf = true ∨ x < 0 ∨ 1 < x →
      t.classify x = t.classify 0) ∧
    (t.validate = .ok () ↔
      (∀ c ∈ t.cutOffs, c.isFinite = true ∧ 0 ≤ c ∧ c ≤ 1) ∧
        t.good < t.excellent ∧ t.warning < t.good ∧ t.poor < t.warning) ∧
    (t.validate = .ok () →
      (∀ x : Float, 0 ≤ x → x ≤ 1 → ∀ level, t.classify x = level ↔ t.InBand x level) ∧
      ∀ level cutOff, t.cutOff? level = some cutOff → t.classify cutOff = level) := by
  refine ⟨by decide, fun x y hx hxy hy => ?_, fun x hx => ?_, ?_, fun hvalid => ⟨?_, ?_⟩⟩
  · rw [HealthLevel.isLE_compare_iff]
    refine classify_mono ?_
    rw [counted_of_rate hx (Double.le_trans hxy hy), counted_of_rate (Double.le_trans hx hxy) hy]
    exact hxy
  · rw [classify_eq, classify_eq, counted_of_not_rate (not_isRate hx)]
  · rw [validate_eq_ok_iff]
    exact ⟨fun h => ⟨h.rates, h.good_lt, h.warning_lt, h.poor_lt⟩,
      fun ⟨hrates, hgood, hwarning, hpoor⟩ => ⟨hrates, hgood, hwarning, hpoor⟩⟩
  · have ht := validate_eq_ok_iff.mp hvalid
    intro x hx hx' level
    exact ⟨fun h => h ▸ inBand_classify ht hx hx', InBand.classify_eq ht hx hx'⟩
  · have ht := validate_eq_ok_iff.mp hvalid
    intro level cutOff hcut
    obtain ⟨-, hlow, hhigh⟩ := ht.rates cutOff (mem_cutOffs_of_cutOff? hcut)
    exact InBand.classify_eq ht hlow hhigh (inBand_cutOff ht hcut)

/-- Cut-offs out of order, one of them no number and one infinite, and those of the public page. -/
theorem classify_bands_odd :
    let odd : ThresholdSet := { forPublic with excellent := 0 / 0, good := 0.5, warning := 1 / 0 }
    (0 : Float) ≤ 0.25 ∧ (0.25 : Float) ≤ 0.75 ∧ (0.75 : Float) ≤ 1 ∧
      (compare (odd.classify 0.25) (odd.classify 0.75)).isLE = true ∧
      (0 / 0 : Float).isNaN = true ∧ odd.classify (0 / 0) = odd.classify 0 ∧
      forPublic.validate = .ok () ∧ forPublic.InBand 0.75 .warning ∧
      forPublic.classify 0.75 = .warning ∧ forPublic.classify forPublic.good = .good := by
  intro odd
  obtain ⟨-, hmono, hzero, -, -⟩ := classify_bands odd
  obtain ⟨-, -, -, -, hvalid⟩ := classify_bands forPublic
  have hquarter : (0 : Float) ≤ 0.25 := by decide
  have hhalf : (0.25 : Float) ≤ 0.75 := by decide
  have hlast : (0.75 : Float) ≤ 1 := by decide
  have hnan : (0 / 0 : Float).isNaN = true := by decide
  have hpublic : forPublic.validate = .ok () := by rfl
  obtain ⟨hbands, hcuts⟩ := hvalid hpublic
  have hband : forPublic.InBand 0.75 .warning := .warning (by decide) (by decide)
  exact ⟨hquarter, hhalf, hlast, hmono 0.25 0.75 hquarter hhalf hlast, hnan, hzero _ (.inl hnan),
    hpublic, hband, (hbands 0.75 (by decide) hlast .warning).mpr hband, hcuts .good _ rfl⟩

end ThresholdSet
end HealthBoard
