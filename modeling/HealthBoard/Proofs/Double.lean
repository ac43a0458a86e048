/-
What the proofs know about doubles.

The language gives a double a logical meaning, by unpacking its bits into a sign, a mantissa and an
exponent, and proves nothing about it.  Two things are needed here.  The first is that comparing is
an order among the doubles that are numbers: `place` says where each of them stands, so that the
laws are those of whole numbers, and a number that does not reach a bound is less than it.  The
second is that zero divided by a positive count is zero, whatever the count, although a count beyond
2^53 is rounded when it becomes a double.  For this nothing has to be known about the value that
rounding gives, only that it is not zero, and that follows from its leading bit.
-/
import Mathlib

namespace HealthBoard.Double

open Float.Model Float.Model.UnpackedFloat

/-! ### Order -/

/-- Where a double stands: by its kind, among numbers of one sign by exponent, then by mantissa.
Zeros of both signs stand in one place, and what is no number stands nowhere. -/
def place : UnpackedFloat → Option (ℤ ×ₗ ℤ ×ₗ ℤ)
  | .notANumber => none
  | .infinity .negative => some (toLex (-2, toLex (0, 0)))
  | .finite .negative m e _ => some (toLex (-1, toLex (-e, -m)))
  | .zero _ => some (toLex (0, toLex (0, 0)))
  | .finite .positive m e _ => some (toLex (1, toLex (e, m)))
  | .infinity .positive => some (toLex (2, toLex (0, 0)))

theorem isLE_then_iff (e₁ e₂ : Int) (m₁ m₂ : Nat) :
    ((compare e₁ e₂).then (compare m₁ m₂)).isLE = true ↔ e₁ < e₂ ∨ e₁ = e₂ ∧ m₁ ≤ m₂ := by
  rcases Int.lt_trichotomy e₁ e₂ with hlt | heq | hgt
  · have h : compare e₁ e₂ = .lt := compare_lt_iff_lt.mpr hlt
    simp [h, hlt]
  · subst heq
    simp [Nat.isLE_compare]
  · have h : compare e₁ e₂ = .gt := compare_gt_iff_gt.mpr hgt
    simp [h]
    omega

theorem isGE_then_iff (e₁ e₂ : Int) (m₁ m₂ : Nat) :
    ((compare e₁ e₂).then (compare m₁ m₂)).isGE = true ↔ e₂ < e₁ ∨ e₂ = e₁ ∧ m₂ ≤ m₁ := by
  rw [← isLE_then_iff e₂ e₁ m₂ m₁, ← Ordering.isLE_swap, Ordering.swap_then, Int.compare_swap,
    Nat.compare_swap]

theorem isLT_then_iff (e₁ e₂ : Int) (m₁ m₂ : Nat) :
    (compare e₁ e₂).then (compare m₁ m₂) = .lt ↔ e₁ < e₂ ∨ e₁ = e₂ ∧ m₁ < m₂ := by
  rw [Ordering.then_eq_lt, compare_lt_iff_lt, compare_lt_iff_lt, compare_eq_iff_eq]

theorem isGT_then_iff (e₁ e₂ : Int) (m₁ m₂ : Nat) :
    (compare e₁ e₂).then (compare m₁ m₂) = .gt ↔ e₂ < e₁ ∨ e₂ = e₁ ∧ m₂ < m₁ := by
  rw [Ordering.then_eq_gt, compare_gt_iff_gt, compare_gt_iff_gt, compare_eq_iff_eq, eq_comm]

/-- Comparing unpacked doubles compares their places. -/
theorem le_iff_place_le (a b : UnpackedFloat) :
    a.le b = true ↔ ∃ p ∈ place a, ∃ q ∈ place b, p ≤ q := by
  rcases a with (_ | _) | _ | _ | ⟨_ | _, _, _, _⟩ <;>
    rcases b with (_ | _) | _ | _ | ⟨_ | _, _, _, _⟩ <;>
    simp [UnpackedFloat.le, UnpackedFloat.compare, place, Prod.Lex.le_iff, isLE_then_iff,
      isGE_then_iff]
  -- left are the infinities, which are compared by sign, and two negative numbers
  any_goals rfl
  omega

theorem lt_iff_place_lt (a b : UnpackedFloat) :
    a.lt b = true ↔ ∃ p ∈ place a, ∃ q ∈ place b, p < q := by
  rcases a with (_ | _) | _ | _ | ⟨_ | _, _, _, _⟩ <;>
    rcases b with (_ | _) | _ | _ | ⟨_ | _, _, _, _⟩ <;>
    simp [UnpackedFloat.lt, UnpackedFloat.compare, place, Prod.Lex.lt_iff, isLT_then_iff,
      isGT_then_iff]
  -- left are the infinities, which are compared by sign, and two negative numbers
  any_goals rfl
  omega

theorem le_iff {x y : Float} :
    x ≤ y ↔ ∃ p ∈ place x.toModel.unpack, ∃ q ∈ place y.toModel.unpack, p ≤ q := by
  rw [← le_iff_place_le]
  exact decide_eq_true_iff

theorem le_trans {x y z : Float} (hxy : x ≤ y) (hyz : y ≤ z) : x ≤ z := by
  obtain ⟨p, hp, q, hq, hpq⟩ := le_iff.mp hxy
  obtain ⟨q', hq', r, hr, hqr⟩ := le_iff.mp hyz
  obtain rfl : q = q' := Option.mem_unique hq hq'
  exact le_iff.mpr ⟨p, hp, r, hr, hpq.trans hqr⟩

/-- What some double is less than or equal to is a number, and as such equal to itself. -/
theorem le_self_of_le {x y : Float} (h : x ≤ y) : y ≤ y := by
  obtain ⟨_, _, q, hq, _⟩ := le_iff.mp h
  exact le_iff.mpr ⟨q, hq, q, hq, le_refl q⟩

theorem lt_iff {x y : Float} :
    x < y ↔ ∃ p ∈ place x.toModel.unpack, ∃ q ∈ place y.toModel.unpack, p < q := by
  rw [← lt_iff_place_lt]
  exact decide_eq_true_iff

theorem le_of_lt {x y : Float} (h : x < y) : x ≤ y := by
  obtain ⟨p, hp, q, hq, hpq⟩ := lt_iff.mp h
  exact le_iff.mpr ⟨p, hp, q, hq, hpq.le⟩

theorem not_le_of_lt {x y : Float} (h : x < y) : ¬ y ≤ x := by
  intro hle
  obtain ⟨p, hp, q, hq, hpq⟩ := lt_iff.mp h
  obtain ⟨q', hq', p', hp', hqp⟩ := le_iff.mp hle
  obtain rfl : p = p' := Option.mem_unique hp hp'
  obtain rfl : q = q' := Option.mem_unique hq hq'
  exact absurd hpq hqp.not_gt

/-- A number that is not up to another one is above it. -/
theorem lt_of_not_le {x y : Float} (hx : x ≤ x) (hy : y ≤ y) (h : ¬ x ≤ y) : y < x := by
  obtain ⟨p, hp, -⟩ := le_iff.mp hx
  obtain ⟨q, hq, -⟩ := le_iff.mp hy
  refine lt_iff.mpr ⟨q, hq, p, hp, lt_of_not_ge fun hpq => h ?_⟩
  exact le_iff.mpr ⟨p, hp, q, hq, hpq⟩

theorem not_le_iff {x y : Float} (hx : x ≤ x) (hy : y ≤ y) : ¬ x ≤ y ↔ y < x :=
  ⟨lt_of_not_le hx hy, not_le_of_lt⟩

theorem lt_trans {x y z : Float} (hxy : x < y) (hyz : y < z) : x < z := by
  obtain ⟨p, hp, q, hq, hpq⟩ := lt_iff.mp hxy
  obtain ⟨q', hq', r, hr, hqr⟩ := lt_iff.mp hyz
  obtain rfl : q = q' := Option.mem_unique hq hq'
  exact lt_iff.mpr ⟨p, hp, r, hr, hpq.trans hqr⟩

theorem beq_iff_place_eq (a b : UnpackedFloat) :
    a.beq b = true ↔ ∃ p ∈ place a, p ∈ place b := by
  rcases a with (_ | _) | _ | _ | ⟨_ | _, _, _, _⟩ <;>
    rcases b with (_ | _) | _ | _ | ⟨_ | _, _, _, _⟩ <;>
    simp [UnpackedFloat.beq, UnpackedFloat.compare, place, Ordering.then_eq_eq]
  -- left are the infinities, and two numbers of one sign
  any_goals rfl
  all_goals omega

/-- Two doubles that are up to each other are the same number, perhaps zeros of both signs. -/
theorem beq_of_le_of_le {x y : Float} (hxy : x ≤ y) (hyx : y ≤ x) : (x == y) = true := by
  obtain ⟨p, hp, q, hq, hpq⟩ := le_iff.mp hxy
  obtain ⟨q', hq', p', hp', hqp⟩ := le_iff.mp hyx
  obtain rfl : p = p' := Option.mem_unique hp hp'
  obtain rfl : q = q' := Option.mem_unique hq hq'
  obtain rfl : p = q := le_antisymm hpq hqp
  exact (beq_iff_place_eq _ _).mpr ⟨p, hp, hq⟩

/-! ### Finite doubles -/

/-- A double is finite unless it is no number or infinite. -/
theorem isFinite_eq_false_iff {x : Float} :
    x.isFinite = false ↔ x.isNaN = true ∨ x.isInf = true := by
  show x.toModel.unpack.isFinite = false ↔
    x.toModel.unpack.isNaN = true ∨ x.toModel.unpack.isInf = true
  cases x.toModel.unpack <;> simp [UnpackedFloat.isFinite, UnpackedFloat.isNaN, UnpackedFloat.isInf]

/-- What lies between zero and one is finite. -/
theorem isFinite_of_unit {x : Float} (hx : 0 ≤ x) (hx' : x ≤ 1) : x.isFinite = true := by
  obtain ⟨p, hp, q, hq, hpq⟩ := le_iff.mp hx
  obtain ⟨q', hq', r, hr, hqr⟩ := le_iff.mp hx'
  obtain rfl : q = q' := Option.mem_unique hq hq'
  have hone : place (1 : Float).toModel.unpack = some (toLex (1, toLex (-52, 2 ^ 52))) := rfl
  rw [hone] at hr
  obtain rfl : toLex (0, toLex (0, 0)) = p := Option.some.inj hp
  obtain rfl := Option.some.inj hr
  show x.toModel.unpack.isFinite = true
  match h : x.toModel.unpack with
  | .zero _ => rfl
  | .finite .. => rfl
  | .notANumber =>
      rw [h] at hq
      cases hq
  | .infinity .negative =>
      rw [h] at hq
      obtain rfl : toLex (-2, toLex (0, 0)) = q := Option.some.inj hq
      exact absurd hpq (by decide)
  | .infinity .positive =>
      rw [h] at hq
      obtain rfl : toLex (2, toLex (0, 0)) = q := Option.some.inj hq
      exact absurd hqr (by decide)

/-! ### Positive counts

`Large` says of an unpacked double that it is positive and, unless it is infinite, uses all its
bits.  Rounding, packing and multiplying all keep it.
-/

inductive Large : UnpackedFloat → Prop
  | infinity : Large (.infinity .positive)
  | finite {m : Nat} {e : Int} (h : 0 < m) : m.log2 = 52 → -1074 ≤ e →
      Large (.finite .positive m e h)

theorem Large.zero_div {u : UnpackedFloat} (h : Large u) :
    UnpackedFloat.div .binary64 (.zero .positive) u = .zero .positive := by
  cases h with
  | infinity => rfl
  | finite => rfl

theorem log2_div_two_pow (m k : Nat) : (m / 2 ^ k).log2 = m.log2 - k := by
  rw [Nat.log2_eq_log_two, Nat.log2_eq_log_two, Nat.log_div_base_pow]

theorem log2_mul_two_pow {n : Nat} (h : n ≠ 0) (k : Nat) : (n * 2 ^ k).log2 = n.log2 + k := by
  induction k with
  | zero => simp
  | succ k ih =>
      rw [Nat.pow_succ', Nat.mul_left_comm, Nat.log2_two_mul (by positivity), ih]
      omega

theorem log2_le_log2 {m n : Nat} (h : m ≤ n) : m.log2 ≤ n.log2 := by
  rw [Nat.log2_eq_log_two, Nat.log2_eq_log_two]
  exact Nat.log_mono_right h

/-- The exponent that a double of this magnitude is stored with, if it is no smaller than all
normal numbers. -/
theorem targetExponent_eq {m : Nat} {e : Int} (h : -1022 ≤ e + m.log2) :
    Format.binary64.targetExponent (totalExponent m e) = e + (m.log2 - 52) := by
  have hmin : Format.binary64.minExponent = -1074 := by decide
  rw [Format.targetExponent, totalExponent, hmin]
  simp only [Format.mantissaBits]
  omega

theorem mantissa_shiftRight (em : ExtendedMantissa) (k : Nat) :
    (em >>> k).mantissa = em.mantissa / 2 ^ k := by
  show (k.repeat ExtendedMantissa.shiftRightOne em).mantissa = _
  induction k with
  | zero => simp [Nat.repeat]
  | succ k ih =>
      show (k.repeat ExtendedMantissa.shiftRightOne em).mantissa / 2 = _
      rw [ih, Nat.div_div_eq_div_mul, Nat.pow_succ]

/-- Of a mantissa with enough bits, shifting keeps as many as a double has. -/
theorem shiftToTargetExponent_eq {m : Nat} {e : Int} (hm : 52 ≤ m.log2)
    (he : -1022 ≤ e + m.log2) :
    ∃ em e', shiftToTargetExponent .binary64 m e .exact = (em, e') ∧ em.mantissa.log2 = 52 ∧
      -1074 ≤ e' := by
  have htarget := targetExponent_eq he
  refine ⟨_, _, rfl, ?_, by omega⟩
  rw [htarget, mantissa_shiftRight, log2_div_two_pow]
  show m.log2 - _ = 52
  omega

theorem le_roundedMantissa (em : ExtendedMantissa) : em.mantissa ≤ em.roundedMantissa := by
  rcases em with ⟨m, _ | _, _ | _⟩ <;>
    simp [ExtendedMantissa.roundedMantissa, ExtendedMantissa.accuracy, Accuracy.roundToNearestEven]

/-- Rounding shifts twice, the second time because rounding up may have given a bit too many. -/
theorem large_roundWithAccuracy {m : Nat} {e : Int} (hm : 52 ≤ m.log2)
    (he : -1022 ≤ e + m.log2) : Large (roundWithAccuracy .binary64 .positive m e .exact) := by
  obtain ⟨em, e', hfirst, hlog, he'⟩ := shiftToTargetExponent_eq hm he
  have hrounded : 52 ≤ em.roundedMantissa.log2 :=
    hlog.ge.trans (log2_le_log2 (le_roundedMantissa em))
  obtain ⟨em', e'', hsecond, hlog', he''⟩ :=
    shiftToTargetExponent_eq (e := e') hrounded (by omega)
  have hne : em'.mantissa ≠ 0 := fun h => by simp [h] at hlog'
  unfold roundWithAccuracy
  simp only [hfirst, hsecond]
  rw [dif_neg hne]
  exact .finite _ hlog' he''

theorem large_mul {m n : Nat} {e f : Int} (hm : 0 < m) (hn : 0 < n)
    (h : 52 ≤ (m * n).log2) (he : -1022 ≤ e + f + (m * n).log2) :
    Large (UnpackedFloat.mul .binary64 (.finite .positive m e hm) (.finite .positive n f hn)) :=
  large_roundWithAccuracy h he

/-- Here one is the double, as it is unpacked. -/
theorem Large.mul_one {u : UnpackedFloat} (h : Large u) :
    Large (UnpackedFloat.mul .binary64 u (.finite .positive (2 ^ 52) (-52) (by decide))) := by
  cases h with
  | infinity => exact .infinity
  | finite hpos hlog he =>
    refine large_mul hpos _ ?_ ?_
    · rw [log2_mul_two_pow hpos.ne']
      omega
    · rw [log2_mul_two_pow hpos.ne']
      omega

theorem large_round {n : Nat} (h : 0 < n) :
    Large (UnpackedFloat.round .binary64 .positive n 0) := by
  have htarget := targetExponent_eq (m := n) (e := 0) (by omega)
  have hlog : (n <<< (0 - (0 + ((n.log2 : Int) - 52))).toNat).log2
      = n.log2 + (52 - n.log2) := by
    rw [Nat.shiftLeft_eq, log2_mul_two_pow h.ne']
    omega
  unfold UnpackedFloat.round decreaseExponent
  simp only [htarget]
  exact large_roundWithAccuracy (by omega) (by omega)

/-- With a stored exponent that is neither the least nor the greatest, the leading bit is there
without being stored. -/
theorem large_unpack {b : Nat} (hlow : 1 ≤ b) (hhigh : b < 2047) (v : BitVec 52) :
    Large (UnpackedFloat.unpack .binary64
      (packComponents .binary64 .positive (BitVec.ofNat 11 b) v)) := by
  have hexponent : (BitVec.ofNat 11 b).toNat = b := by
    rw [BitVec.toNat_ofNat]
    exact Nat.mod_eq_of_lt (by omega)
  have hgreatest : BitVec.ofNat 11 b ≠ -1#11 := fun h => by
    have : b = 2047 := by rw [← hexponent, h]; rfl
    omega
  have hleast : BitVec.ofNat 11 b ≠ 0#11 := fun h => by
    have : b = 0 := by rw [← hexponent, h]; rfl
    omega
  have hmantissa : (1#1 ++ v).toNat = 2 ^ 52 + v.toNat := by
    rw [BitVec.toNat_append, ← Nat.shiftLeft_add_eq_or_of_lt v.isLt]
    rfl
  unfold UnpackedFloat.unpack
  simp only [unpackMantissa_packComponents, unpackExponent_packComponents,
    unpackSign_packComponents]
  rw [if_neg hgreatest, if_neg hleast]
  refine .finite _ ?_ ?_
  · rw [hmantissa, Nat.log2_eq_iff (by omega)]
    have := v.isLt
    omega
  · rw [hexponent]
    show (-1074 : Int) ≤ (b : Int) - ((1023 : Nat) + (52 : Nat))
    omega

theorem Large.unpack_pack {u : UnpackedFloat} (h : Large u) : Large (pack u).unpack := by
  cases h with
  | infinity => exact .infinity
  | @finite m e hpos hlog he =>
    have hlow : 1 ≤ (e + (1023 : Nat) + (52 : Nat)).toNat := by omega
    show Large (UnpackedFloat.unpack .binary64
      (if 2 ^ 11 ≤ (e + (1023 : Nat) + (52 : Nat)).toNat + 1 then _
        else if m.log2 + 1 = 53 then _ else _))
    by_cases hhigh : 2 ^ 11 ≤ (e + (1023 : Nat) + (52 : Nat)).toNat + 1
    · rw [if_pos hhigh]
      exact .infinity
    · rw [if_neg hhigh, if_pos (by omega)]
      exact large_unpack hlow (by omega) _

/-- A count that fits is converted by its bits, and then multiplied by one. -/
theorem large_toFloat_mul_one {n : Nat} (h : 0 < n) (hfits : n < 2 ^ 53) :
    Large (n.toUInt64.toFloat * Float.exactlyRepresentablePowersOfTen[0]).toModel.unpack := by
  have hone : Float.exactlyRepresentablePowersOfTen[0].toModel.unpack
      = .finite .positive (2 ^ 52) (-52) (by decide) := rfl
  have hn : n.toUInt64.toNat = n := by
    show n % 2 ^ 64 = n
    omega
  have hgt : compare (n : Int) 0 = .gt := by
    rw [compare_gt_iff_gt]
    omega
  have hconverted : Large n.toUInt64.toFloat.toModel.unpack := by
    show Large (pack (UnpackedFloat.normalize .binary64 n.toUInt64.toNat 0 .positive)).unpack
    rw [hn]
    unfold UnpackedFloat.normalize
    rw [hgt]
    exact (large_round h).unpack_pack
  show Large (pack (UnpackedFloat.mul .binary64 n.toUInt64.toFloat.toModel.unpack
    Float.exactlyRepresentablePowersOfTen[0].toModel.unpack)).unpack
  refine Large.unpack_pack ?_
  rw [hone]
  exact hconverted.mul_one

/-- Any other is multiplied by one exactly, and rounded once. -/
theorem large_ofScientific {n : Nat} (h : 0 < n) :
    Large (Float.Model.ofScientific n 0).unpack := by
  have hbits : Format.binary64.mantissaBits = 53 := rfl
  refine Large.unpack_pack ?_
  unfold UnpackedFloat.ofScientific
  rw [dif_neg h.ne', if_neg (by decide), if_neg ?_, if_pos (by decide)]
  · simp only [Int.toNat_zero, Nat.pow_zero, hbits, Nat.shiftLeft_eq]
    refine large_mul _ _ ?_ ?_
    · rw [Nat.mul_one, log2_mul_two_pow h.ne']
      omega
    · rw [Nat.mul_one, log2_mul_two_pow h.ne']
      omega
  · show ¬ (0 : Int) < -((2048 : Int) + n.log2)
    omega

theorem large_ofNat {n : Nat} (h : 0 < n) : Large (Float.ofNat n).toModel.unpack := by
  show Large (Float.ofScientific n false 0).toModel.unpack
  unfold Float.ofScientific
  by_cases hfits : n < 2 ^ 53 ∧ 0 ≤ 22
  · rw [dif_pos hfits]
    exact large_toFloat_mul_one h hfits.1
  · rw [dif_neg hfits]
    exact large_ofScientific h

/-- Zero divided by a positive count is zero. -/
theorem zero_div_ofInt {n : Int} (h : 0 < n) : Float.ofInt 0 / Float.ofInt n = 0 := by
  cases n with
  | negSucc n => omega
  | ofNat n =>
    have hn : 0 < n := by simpa using h
    have hzero : (Float.ofInt 0).toModel.unpack = .zero .positive := rfl
    show Float.ofModel (pack (UnpackedFloat.div .binary64 (Float.ofInt 0).toModel.unpack
      (Float.ofNat n).toModel.unpack)) = 0
    rw [hzero, (large_ofNat hn).zero_div]
    decide

end HealthBoard.Double
