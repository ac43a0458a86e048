/-
Which rates are judged alike.

A level is found by holding a rate against the cut-offs, and for that a rate that is none counts as
zero.  So two rates can differ and still be judged alike whatever the cut-offs are.  They are,
exactly if what they count as is equal as a number: NaN and 2 both count as zero, and zeros of both
signs are equal.
-/
import HealthBoard.Health.Level
import HealthBoard.Proofs.Double

namespace HealthBoard

namespace ThresholdSet

/-- What a rate counts as when it is judged. -/
def counted (rate : Float) : Float := if isRate rate then rate else 0

theorem classify_eq (t : ThresholdSet) (rate : Float) :
    t.classify rate
      = if t.excellent ≤ counted rate then .excellent
        else if t.good ≤ counted rate then .good
        else if t.warning ≤ counted rate then .warning
        else if t.poor ≤ counted rate then .poor
        else .critical :=
  rfl

/-- What counts is a number. -/
theorem counted_le_self (rate : Float) : counted rate ≤ counted rate := by
  unfold counted
  by_cases h : isRate rate = true
  · rw [if_pos h]
    simp only [isRate, Bool.and_eq_true, decide_eq_true_eq] at h
    exact Double.le_self_of_le h.1.2
  · rw [if_neg h]
    decide

/-- The rates count as the same number. -/
def CountAlike (x y : Float) : Prop := counted x ≤ counted y ∧ counted y ≤ counted x

theorem CountAlike.refl (rate : Float) : CountAlike rate rate :=
  ⟨counted_le_self rate, counted_le_self rate⟩

theorem CountAlike.reaches_iff {x y : Float} (h : CountAlike x y) (cutOff : Float) :
    cutOff ≤ counted x ↔ cutOff ≤ counted y :=
  ⟨fun hx => Double.le_trans hx h.1, fun hy => Double.le_trans hy h.2⟩

theorem classify_congr (t : ThresholdSet) {x y : Float} (h : CountAlike x y) :
    t.classify x = t.classify y := by
  rw [classify_eq, classify_eq]
  simp only [h.reaches_iff]

theorem classify_eq_excellent_iff (t : ThresholdSet) (rate : Float) :
    t.classify rate = .excellent ↔ t.excellent ≤ counted rate := by
  rw [classify_eq]
  split_ifs <;> simp [*]

/-- Rates are judged alike by all cut-offs exactly if they count alike. -/
theorem countAlike_iff {x y : Float} :
    CountAlike x y ↔ ∀ t : ThresholdSet, t.classify x = t.classify y := by
  refine ⟨fun h t => t.classify_congr h, fun h => ?_⟩
  -- a cut-off at what one of them counts as is reached by that one, hence by the other
  have reach : ∀ {a b : Float}, (∀ t : ThresholdSet, t.classify a = t.classify b) →
      counted a ≤ counted b := by
    intro a b hab
    have ha := ({ forPublic with excellent := counted a }).classify_eq_excellent_iff a
    have hb := ({ forPublic with excellent := counted a }).classify_eq_excellent_iff b
    exact hb.mp ((hab _).symm.trans (ha.mpr (counted_le_self a)))
  exact ⟨reach h, reach fun t => (h t).symm⟩

end ThresholdSet
end HealthBoard
