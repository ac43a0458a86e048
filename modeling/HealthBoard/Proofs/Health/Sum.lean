/-
When a sum in 64 bits is the exact one.

Adding up in 64 bits is adding up exactly and keeping what is left modulo 2 ^ 64, so everything that
is known of exact sums carries over: the order of the counts does not matter, and a list can be
added up in parts.  The result is the exact sum whenever that one fits.

A program that stops at a sum looks at every sum on the way.  It gets to the end exactly if the
counts in front of each place add up to a number of 64 bits (`Bears`), and then its result is the
exact sum.  If no count is negative, the sums on the way only grow, and it is enough that the last
one fits.
-/
import HealthBoard.Health.Sum
import HealthBoard.Proofs.Decimal
import Mathlib.Algebra.BigOperators.Group.List.Basic
import Mathlib.Algebra.Order.BigOperators.Group.List
import Mathlib.Algebra.Ring.Int.Defs

namespace HealthBoard

/-- A number of 64 bits. -/
def Fits (n : Int) : Prop := leastInteger ≤ n ∧ n ≤ greatestInteger

instance (n : Int) : Decidable (Fits n) := by
  unfold Fits
  infer_instance

theorem fits_toInt (n : Int64) : Fits n.toInt := ⟨n.le_toInt, n.toInt_le⟩

/-- What is not negative fits below what fits. -/
theorem Fits.of_le {m n : Int} (h : Fits n) (hnonneg : 0 ≤ m) (hle : m ≤ n) : Fits m := by
  unfold Fits leastInteger at *
  omega

theorem toInt_ofInt_of_fits {n : Int} (h : Fits n) : (Int64.ofInt n).toInt = n := by
  obtain ⟨hleast, hgreatest⟩ := h
  unfold leastInteger at hleast
  unfold greatestInteger at hgreatest
  exact Int64.toInt_ofInt_of_le (by omega) (by omega)

/-- A sum of two is the exact one if and only if that one fits. -/
theorem toInt_add_eq_iff {a b : Int64} :
    (a + b).toInt = a.toInt + b.toInt ↔ Fits (a.toInt + b.toInt) := by
  constructor
  · intro h
    rw [← h]
    exact fits_toInt _
  · intro h
    have hsum : a + b = Int64.ofInt (a.toInt + b.toInt) := by
      rw [Int64.ofInt_add, Int64.ofInt_toInt, Int64.ofInt_toInt]
    rw [hsum, toInt_ofInt_of_fits h]

/-! ### Exact sums -/

/-- The sum of some counts, in exact arithmetic. -/
def exactTotal (counts : List Int64) : Int := (counts.map Int64.toInt).sum

theorem exactTotal_append (counts counts' : List Int64) :
    exactTotal (counts ++ counts') = exactTotal counts + exactTotal counts' := by
  unfold exactTotal
  rw [List.map_append, List.sum_append]

theorem exactTotal_perm {counts counts' : List Int64} (h : counts.Perm counts') :
    exactTotal counts = exactTotal counts' :=
  (h.map Int64.toInt).sum_eq

theorem exactTotal_nonneg {counts : List Int64} (h : ∀ n ∈ counts, 0 ≤ n.toInt) :
    0 ≤ exactTotal counts := by
  refine List.sum_nonneg fun n hn => ?_
  obtain ⟨m, hm, rfl⟩ := List.mem_map.mp hn
  exact h m hm

private theorem foldl_add (counts : List Int64) :
    ∀ sum : Int64, counts.foldl (· + ·) sum = Int64.ofInt (sum.toInt + exactTotal counts) := by
  induction counts with
  | nil =>
      intro sum
      rw [List.foldl_nil, exactTotal, List.map_nil, List.sum_nil, Int.add_zero, Int64.ofInt_toInt]
  | cons n rest ih =>
      intro sum
      have hcons : exactTotal (n :: rest) = n.toInt + exactTotal rest := List.sum_cons
      rw [List.foldl_cons, ih, hcons, Int64.ofInt_add, Int64.ofInt_toInt, Int64.ofInt_add,
        Int64.ofInt_add, Int64.ofInt_toInt, Int64.ofInt_toInt, Int64.add_assoc]

/-- **A sum in 64 bits is what is left of the exact one.** -/
theorem total_eq_ofInt (counts : List Int64) : total counts = Int64.ofInt (exactTotal counts) := by
  unfold total
  rw [foldl_add]
  exact congrArg Int64.ofInt (Int.zero_add _)

theorem toInt_total {counts : List Int64} (h : Fits (exactTotal counts)) :
    (total counts).toInt = exactTotal counts := by
  rw [total_eq_ofInt, toInt_ofInt_of_fits h]

theorem total_append (counts counts' : List Int64) :
    total (counts ++ counts') = total counts + total counts' := by
  simp only [total_eq_ofInt, exactTotal_append, Int64.ofInt_add]

theorem total_cons (n : Int64) (rest : List Int64) : total (n :: rest) = n + total rest := by
  have hsingle : total [n] = n := Int64.zero_add n
  rw [← List.singleton_append, total_append, hsingle]

theorem total_perm {counts counts' : List Int64} (h : counts.Perm counts') :
    total counts = total counts' := by
  rw [total_eq_ofInt, total_eq_ofInt, exactTotal_perm h]

/-- Sums that were taken in 64 bits can be added up as if they were exact. -/
theorem total_map_ofInt {α : Type} (f : α → Int) (l : List α) :
    total (l.map fun a => Int64.ofInt (f a)) = Int64.ofInt (l.map f).sum := by
  induction l with
  | nil => rfl
  | cons a rest ih =>
      rw [List.map_cons, total_cons, ih, List.map_cons, List.sum_cons, Int64.ofInt_add]

/-! ### Programs that may stop -/

namespace Overflow

variable {o : Overflow} {counts : List Int64}

/-- The program gets to the end of a sum: if it would stop, then every sum on the way fits. -/
def Bears (o : Overflow) (counts : List Int64) : Prop :=
  o = .stops → ∀ front, front <+: counts → Fits (exactTotal front)

theorem bears_wraps (counts : List Int64) : wraps.Bears counts := fun h => by cases h

theorem Bears.fits (h : stops.Bears counts) : Fits (exactTotal counts) :=
  h rfl counts List.prefix_rfl

theorem add?_eq_some_iff {a b sum : Int64} :
    o.add? a b = some sum ↔ sum = a + b ∧ (o = .stops → Fits (a.toInt + b.toInt)) := by
  cases o with
  | wraps => simp [add?, eq_comm]
  | stops =>
      simp only [add?, toInt_add_eq_iff]
      split
      · rename_i h
        simp [h, eq_comm]
      · rename_i h
        simp [h]

/--
The induction is on the counts, for every sum that they are added to: if the program gets past the
first of them, the sum is exact up to there, and the fronts of the rest are the fronts with it.
-/
private theorem foldlM_eq_some_iff (counts : List Int64) :
    ∀ {start sum : Int64}, counts.foldlM o.add? start = some sum ↔
      sum = start + total counts ∧
        (o = .stops → ∀ front, front <+: counts → Fits (start.toInt + exactTotal front)) := by
  induction counts with
  | nil =>
      intro start sum
      have hstart : start.toInt + exactTotal [] = start.toInt := Int.add_zero _
      have hzero : start + total [] = start := Int64.add_zero start
      simp [hstart, hzero, fits_toInt, eq_comm]
  | cons n rest ih =>
      intro start sum
      have hfirst : exactTotal [n] = n.toInt := Int.add_zero _
      have htotal : start + total (n :: rest) = start + n + total rest := by
        rw [total_cons, Int64.add_assoc]
      have hfront : ∀ front, exactTotal (n :: front) = n.toInt + exactTotal front :=
        fun _ => List.sum_cons
      rw [List.foldlM_cons, Option.bind_eq_bind, Option.bind_eq_some_iff, htotal]
      constructor
      · rintro ⟨next, hnext, hrest⟩
        obtain ⟨rfl, hfits⟩ := add?_eq_some_iff.mp hnext
        obtain ⟨rfl, hfronts⟩ := ih.mp hrest
        refine ⟨rfl, fun hstops front hprefix => ?_⟩
        have hexact := toInt_add_eq_iff.mpr (hfits hstops)
        rcases List.prefix_cons_iff.mp hprefix with rfl | ⟨further, rfl, hfurther⟩
        · exact (Int.add_zero _).symm ▸ fits_toInt start
        · have hlater := hfronts hstops further hfurther
          rwa [hexact, Int.add_assoc, ← hfront] at hlater
      · rintro ⟨rfl, hfronts⟩
        have hfits : o = .stops → Fits (start.toInt + n.toInt) := fun hstops =>
          hfirst ▸ hfronts hstops [n] (List.prefix_append [n] rest)
        refine ⟨start + n, add?_eq_some_iff.mpr ⟨rfl, hfits⟩, ih.mpr ⟨rfl, ?_⟩⟩
        intro hstops front hprefix
        have hexact := toInt_add_eq_iff.mpr (hfits hstops)
        rw [hexact, Int.add_assoc, ← hfront]
        exact hfronts hstops (n :: front) (List.cons_prefix_cons.mpr ⟨rfl, hprefix⟩)

/-- **A program that gets to the end has the sum in 64 bits**, and it is said when it does. -/
theorem total?_eq_some_iff {sum : Int64} :
    o.total? counts = some sum ↔ sum = total counts ∧ o.Bears counts := by
  have hzero : ∀ n : Int, (0 : Int64).toInt + n = n := Int.zero_add
  unfold total? Bears
  simp only [foldlM_eq_some_iff, Int64.zero_add, hzero]

instance (o : Overflow) (counts : List Int64) : Decidable (o.Bears counts) :=
  decidable_of_iff ((o.total? counts).isSome = true) (by
    rw [Option.isSome_iff_exists]
    simp only [total?_eq_some_iff, exists_eq_left])

/-- Where no count is negative, a program gets to the end if the last sum fits. -/
theorem Bears.of_nonneg (hcounts : ∀ n ∈ counts, 0 ≤ n.toInt)
    (h : o = .stops → Fits (exactTotal counts)) : o.Bears counts := by
  rintro hstops front ⟨back, rfl⟩
  have hfront : 0 ≤ exactTotal front :=
    exactTotal_nonneg fun n hn => hcounts n (List.mem_append_left back hn)
  have hback : 0 ≤ exactTotal back :=
    exactTotal_nonneg fun n hn => hcounts n (List.mem_append_right front hn)
  refine (h hstops).of_le hfront ?_
  rw [exactTotal_append]
  omega

end Overflow
end HealthBoard
