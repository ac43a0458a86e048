/-
Decimals are read back as they were written.

A time that is stored is stored as a decimal, and whether the next report is due hangs on reading
it again.  What is written are the digits of the absolute value, perhaps after a minus sign;
`magnitude` reads them one by one and compares with the end of the range at each.  The number read
so far never exceeds the whole number, so no digit of a number within the range is refused.

Where a decimal has a point, only zeros and the point are added to its digits (`mem_plainText`).

The second half is about clamping: a difference that was clamped can only be compared wrongly
with the least integer of all.
-/
import HealthBoard.Decimal.Layout
import HealthBoard.Text.Blank

namespace HealthBoard

namespace Decimal

/-! ### Digits -/

theorem digitValue?_digitChar {d : Nat} (h : d < 10) : digitValue? (digitChar d) = some d := by
  have hall : ∀ i : Fin 10, digitValue? (digitChar i) = some i.val := by decide
  exact hall ⟨d, h⟩

/-- A digit is no sign and no white space. -/
theorem digitChar_plain {d : Nat} (h : d < 10) :
    digitChar d ≠ '+' ∧ digitChar d ≠ '-' ∧ Text.isBlank (digitChar d) = false := by
  have hall : ∀ i : Fin 10, digitChar i ≠ '+' ∧ digitChar i ≠ '-' ∧
      Text.isBlank (digitChar i) = false := by decide
  exact hall ⟨d, h⟩

theorem mem_digits {n : Nat} {c : Char} (hc : c ∈ digits n) : ∃ d, d < 10 ∧ c = digitChar d := by
  induction n using digits.induct with
  | case1 n hlt =>
      rw [digits, if_pos hlt] at hc
      exact ⟨n, hlt, List.mem_singleton.mp hc⟩
  | case2 n hge ih =>
      rw [digits, if_neg hge] at hc
      rcases List.mem_append.mp hc with hfront | hlast
      · exact ih hfront
      · exact ⟨n % 10, by omega, List.mem_singleton.mp hlast⟩

theorem digits_ne_nil (n : Nat) : digits n ≠ [] := by
  rw [digits]
  by_cases h : n < 10
  · simp [h]
  · simp [h]

theorem digitChar_ne_zero {d : Nat} (h : d < 10) (hpos : 0 < d) : digitChar d ≠ '0' := by
  have hall : ∀ i : Fin 10, 0 < i.val → digitChar i ≠ '0' := by decide
  exact hall ⟨d, h⟩ hpos

/-- The first digit of a number is no zero, unless the number is. -/
theorem exists_digits_eq_cons {n : Nat} (h : 0 < n) :
    ∃ c rest, digits n = c :: rest ∧ c ≠ '0' := by
  induction n using digits.induct with
  | case1 n hlt =>
      rw [digits, if_pos hlt]
      exact ⟨_, _, rfl, digitChar_ne_zero hlt h⟩
  | case2 n hge ih =>
      obtain ⟨c, rest, hfront, hc⟩ := ih (by omega)
      rw [digits, if_neg hge, hfront]
      exact ⟨_, _, rfl, hc⟩

theorem Layout.mem_plainText {l : Layout} {ds : List Char} {exponent : Int} {c : Char}
    (hc : c ∈ l.plainText ds exponent) : c ∈ ds ∨ c = '0' ∨ c = '.' := by
  simp only [Layout.plainText] at hc
  split at hc
  · rcases List.mem_append.mp hc with hc | hc
    · rcases List.mem_append.mp hc with hc | hc
      · exact .inl hc
      · exact .inr (.inl (List.eq_of_mem_replicate hc))
    · split at hc
      · rcases List.mem_cons.mp hc with hc | hc
        · exact .inr (.inr hc)
        · exact .inr (.inl (List.mem_singleton.mp hc))
      · cases hc
  · split at hc
    · rcases List.mem_append.mp hc with hc | hc
      · exact .inl (List.take_subset _ _ hc)
      · rcases List.mem_cons.mp hc with hc | hc
        · exact .inr (.inr hc)
        · exact .inl (List.drop_subset _ _ hc)
    · rcases List.mem_cons.mp hc with hc | hc
      · exact .inr (.inl hc)
      · rcases List.mem_cons.mp hc with hc | hc
        · exact .inr (.inr hc)
        · rcases List.mem_append.mp hc with hc | hc
          · exact .inr (.inl (List.eq_of_mem_replicate hc))
          · exact .inl hc

/-! ### Reading digits -/

theorem magnitude_append (greatest : Nat) (overflow : IntegerFault) (front back : List Char) :
    ∀ value : Nat, magnitude greatest overflow value (front ++ back)
      = (magnitude greatest overflow value front).bind fun v =>
          magnitude greatest overflow v back := by
  induction front with
  | nil => intro value; rfl
  | cons c rest ih =>
      intro value
      rw [List.cons_append]
      simp only [magnitude]
      cases digitValue? c with
      | none => rfl
      | some d =>
          by_cases h : greatest < 10 * value + d
          · simp only [if_pos h]
            rfl
          · simp only [if_neg h]
            exact ih (10 * value + d)

theorem magnitude_digit {greatest value d : Nat} (overflow : IntegerFault) (hd : d < 10)
    (h : 10 * value + d ≤ greatest) :
    magnitude greatest overflow value [digitChar d] = .ok (10 * value + d) := by
  simp only [magnitude, digitValue?_digitChar hd, if_neg (Nat.not_lt.mpr h)]

/-- The digits of a number within the range give the number. -/
theorem magnitude_digits {greatest n : Nat} (overflow : IntegerFault) (h : n ≤ greatest) :
    magnitude greatest overflow 0 (digits n) = .ok n := by
  induction n using digits.induct with
  | case1 n hlt =>
      rw [digits, if_pos hlt, magnitude_digit overflow hlt (by omega)]
      simp
  | case2 n hge ih =>
      have hfront : magnitude greatest overflow 0 (digits (n / 10)) = .ok (n / 10) :=
        ih (by omega)
      rw [digits, if_neg hge, magnitude_append, hfront]
      show magnitude greatest overflow (n / 10) [digitChar (n % 10)] = .ok n
      rw [magnitude_digit overflow (by omega) (by omega)]
      congr 1
      omega

/-! ### Reading decimals -/

/-- What starts with a digit is read as a decimal without a sign. -/
theorem readBetween_digits {least greatest : Int} (n : Nat) :
    readBetween least greatest (digits n)
      = (magnitude greatest.toNat .tooLarge 0 (digits n)).map Int.ofNat := by
  obtain ⟨c, rest, hcs⟩ := List.exists_cons_of_ne_nil (digits_ne_nil n)
  obtain ⟨d, hd, hc⟩ := mem_digits (n := n) (c := c) (by rw [hcs]; simp)
  obtain ⟨hplus, hminus, -⟩ := digitChar_plain hd
  rw [← hc] at hplus hminus
  rw [hcs]
  unfold readBetween
  split <;> simp_all

theorem readBetween_minus_digits {least greatest : Int} (n : Nat) :
    readBetween least greatest ('-' :: digits n)
      = (magnitude (-least).toNat .tooSmall 0 (digits n)).map fun v => -Int.ofNat v := by
  obtain ⟨c, rest, hcs⟩ := List.exists_cons_of_ne_nil (digits_ne_nil n)
  rw [hcs]
  rfl

/-- **A decimal of the range is read back as the number it was written for.** -/
theorem readBetween_ofInt {least greatest n : Int} (hl : least ≤ n) (hg : n ≤ greatest) :
    readBetween least greatest (ofInt n) = .ok n := by
  unfold ofInt
  by_cases hneg : n < 0
  · rw [if_pos hneg, readBetween_minus_digits, magnitude_digits _ (by omega)]
    show Except.ok (-Int.ofNat n.natAbs) = _
    congr 1
    simp only [Int.ofNat_eq_natCast]
    omega
  · rw [if_neg hneg, readBetween_digits, magnitude_digits _ (by omega)]
    show Except.ok (Int.ofNat n.natAbs) = _
    congr 1
    simp only [Int.ofNat_eq_natCast]
    omega

theorem readInteger_text (n : Int64) : readInteger (text n.toInt) = .ok n := by
  have hl : leastInteger ≤ n.toInt := n.le_toInt
  have hg : n.toInt ≤ greatestInteger := n.toInt_le
  unfold readInteger text
  rw [String.toList_ofList, readBetween_ofInt hl hg]
  show Except.ok (Int64.ofInt n.toInt) = _
  rw [Int64.ofInt_toInt]

end Decimal

/-! ### White space around decimals -/

theorem Text.trimChars_of_plain {cs : List Char} (h : ∀ c ∈ cs, Text.isBlank c = false) :
    Text.trimChars cs = cs := by
  have hkeep : ∀ l : List Char, (∀ c ∈ l, Text.isBlank c = false) →
      l.dropWhile Text.isBlank = l := by
    intro l hl
    cases l with
    | nil => rfl
    | cons c rest => rw [List.dropWhile_cons, hl c (by simp), if_neg (by simp)]
  unfold Text.trimChars
  rw [hkeep cs h, hkeep cs.reverse (fun c hc => h c (List.mem_reverse.mp hc)),
    List.reverse_reverse]

theorem Decimal.trim_text (n : Int) : Text.trim (Decimal.text n) = Decimal.text n := by
  have hdigits : ∀ c ∈ Decimal.digits n.natAbs, Text.isBlank c = false := by
    intro c hc
    obtain ⟨d, hd, rfl⟩ := Decimal.mem_digits hc
    exact (Decimal.digitChar_plain hd).2.2
  unfold Text.trim Decimal.text
  rw [String.toList_ofList, Text.trimChars_of_plain]
  intro c hc
  unfold Decimal.ofInt at hc
  split at hc
  · rcases List.mem_cons.mp hc with rfl | hc
    · rfl
    · exact hdigits c hc
  · exact hdigits c hc

/-! ### Clamped differences -/

theorem toInt_clamp (n : Int) :
    (clamp n).toInt = if n < leastInteger then leastInteger
      else if greatestInteger < n then greatestInteger else n := by
  unfold clamp
  rw [Int64.toInt_ofInt_of_le]
  · unfold leastInteger greatestInteger
    split
    · omega
    · split <;> omega
  · unfold leastInteger greatestInteger
    split
    · omega
    · split <;> omega

/-- Clamping keeps the order. -/
theorem toInt_clamp_mono {m n : Int} (h : m ≤ n) : (clamp m).toInt ≤ (clamp n).toInt := by
  rw [toInt_clamp, toInt_clamp]
  unfold leastInteger greatestInteger
  grind

/-- Clamping changes no comparison with a bound above the least integer. -/
theorem le_toInt_clamp_iff {bound : Int64} (h : leastInteger < bound.toInt) (n : Int) :
    bound.toInt ≤ (clamp n).toInt ↔ bound.toInt ≤ n := by
  have hg : bound.toInt ≤ greatestInteger := bound.toInt_le
  rw [toInt_clamp]
  split
  · omega
  · split <;> omega

end HealthBoard
