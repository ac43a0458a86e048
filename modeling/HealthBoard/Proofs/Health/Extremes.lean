/-
The best of some values, found by going over them.

A trend has a least and a greatest rate.  Both are found alike: the search begins with a value that
no rate should be better than, and keeps what it has unless the next value is better.  What is found
is at least as good as the start and as every value, and is one of them (`IsBest`).  That describes
it without the order in which the values come, so two searches through the same values find the
same, or at most two values that are as good as each other.

Doubles are not in a total order: what is no number is neither better nor worse.  A search passes
over it, and so nothing is claimed of a value that is not as good as itself.
-/
import HealthBoard.Health.Summary
import HealthBoard.Proofs.Double

namespace HealthBoard

variable {R : Type} {le : R → R → Prop} {pick : R → R → R}

/-- The best of some values and the one that the search began with; `le` is "is as good as". -/
structure IsBest (le : R → R → Prop) (start : R) (values : List R) (best : R) : Prop where
  self : le best best
  le_start : le best start
  le_each : ∀ x ∈ values, le x x → le best x
  found : best = start ∨ best ∈ values

/-- The first of two values is kept unless the second is better. -/
structure Picks (le : R → R → Prop) (pick : R → R → R) : Prop where
  trans : ∀ {x y z}, le x y → le y z → le x z
  kept_or_taken : ∀ {x}, le x x → ∀ y,
    (pick x y = x ∧ (le y y → le x y)) ∨ (pick x y = y ∧ le y y ∧ le y x)

/-- **A search finds the best.** -/
theorem Picks.isBest_foldl (h : Picks le pick) (values : List R) :
    ∀ {start : R}, le start start → IsBest le start values (values.foldl pick start) := by
  induction values with
  | nil =>
      intro start hstart
      exact ⟨hstart, hstart, fun x hx => absurd hx List.not_mem_nil, Or.inl rfl⟩
  | cons y rest ih =>
      intro start hstart
      rw [List.foldl_cons]
      rcases h.kept_or_taken hstart y with ⟨heq, hy⟩ | ⟨heq, hself, hy⟩
      · rw [heq]
        have hrest := ih hstart
        refine ⟨hrest.self, hrest.le_start, ?_, ?_⟩
        · intro x hx hxx
          rcases List.mem_cons.mp hx with rfl | hx
          · exact h.trans hrest.le_start (hy hxx)
          · exact hrest.le_each x hx hxx
        · exact hrest.found.imp_right (List.mem_cons_of_mem y)
      · rw [heq]
        have hrest := ih hself
        refine ⟨hrest.self, h.trans hrest.le_start hy, ?_, Or.inr ?_⟩
        · intro x hx hxx
          rcases List.mem_cons.mp hx with rfl | hx
          · exact hrest.le_start
          · exact hrest.le_each x hx hxx
        · rcases hrest.found with hstart' | hin
          · rw [hstart']
            exact List.mem_cons_self
          · exact List.mem_cons_of_mem y hin

/-- The best of more values is as good as the best of fewer. -/
theorem IsBest.le_of_subset {start best best' : R} {values values' : List R}
    (h : IsBest le start values best) (h' : IsBest le start values' best')
    (hsub : values' ⊆ values) : le best best' := by
  rcases h'.found with heq | hin
  · rw [heq]
    exact h.le_start
  · exact h.le_each best' (hsub hin) h'.self

/-! ### Doubles -/

theorem picks_lesser : Picks (· ≤ ·) lesser where
  trans := Double.le_trans
  kept_or_taken := by
    intro x hx y
    unfold lesser
    by_cases hlt : y < x
    · rw [if_pos hlt]
      have hle := Double.le_of_lt hlt
      obtain ⟨p, hp, -⟩ := Double.le_iff.mp hle
      exact Or.inr ⟨rfl, Double.le_iff.mpr ⟨p, hp, p, hp, le_refl p⟩, hle⟩
    · rw [if_neg hlt]
      refine Or.inl ⟨rfl, fun hy => ?_⟩
      by_contra hnot
      exact hlt (Double.lt_of_not_le hx hy hnot)

theorem picks_greater : Picks (fun x y => y ≤ x) greater where
  trans := fun hxy hyz => Double.le_trans hyz hxy
  kept_or_taken := by
    intro x hx y
    unfold greater
    by_cases hlt : x < y
    · rw [if_pos hlt]
      have hle := Double.le_of_lt hlt
      exact Or.inr ⟨rfl, Double.le_self_of_le hle, hle⟩
    · rw [if_neg hlt]
      refine Or.inl ⟨rfl, fun hy => ?_⟩
      by_contra hnot
      exact hlt (Double.lt_of_not_le hy hx hnot)

/-- The least of some rates does not hang on their order. -/
theorem lesser_beq_of_perm {rates rates' : List Float} (h : rates.Perm rates') {start : Float}
    (hstart : start ≤ start) :
    (rates.foldl lesser start == rates'.foldl lesser start) = true := by
  have hbest := picks_lesser.isBest_foldl rates hstart
  have hbest' := picks_lesser.isBest_foldl rates' hstart
  exact Double.beq_of_le_of_le (hbest.le_of_subset hbest' h.symm.subset)
    (hbest'.le_of_subset hbest h.subset)

theorem greater_beq_of_perm {rates rates' : List Float} (h : rates.Perm rates') {start : Float}
    (hstart : start ≤ start) :
    (rates.foldl greater start == rates'.foldl greater start) = true := by
  have hbest := picks_greater.isBest_foldl rates hstart
  have hbest' := picks_greater.isBest_foldl rates' hstart
  exact Double.beq_of_le_of_le (hbest'.le_of_subset hbest h.subset)
    (hbest.le_of_subset hbest' h.symm.subset)

end HealthBoard
