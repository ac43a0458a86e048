/-
How numbers are spelled as texts of settings.

A number that becomes a text is spelled in the one way that numbers are spelled here: without a plus
sign, without an exponent, and without a zero in front of other digits.  `Ornate` is any other way.
For whole numbers that is plain from how their digits are found.  A number with a fraction is digits
and a power of ten, and where its digits are just a zero there must be no power of ten, or zeros
would be written after it; this holds since the shortest decimal of a number that is not zero is
never zero (`pos_of_onGrid?`).
-/
import HealthBoard.Decimal.Layout
import HealthBoard.Proofs.Decimal

namespace HealthBoard.Decimal

/-- Spelled as no number is spelled here. -/
inductive Ornate (cs : List Char) : Prop
  | plus (h : '+' ∈ cs)
  | exponent (h : 'e' ∈ cs ∨ 'E' ∈ cs)
  | zeros {sign rest : List Char} {d : Char} (hsign : sign = [] ∨ sign = ['-'])
      (hdigit : d.isDigit = true) (h : cs = sign ++ '0' :: d :: rest)

/-- A character that may occur in a number without its sign. -/
abbrev IsTidy (c : Char) : Prop := c ≠ '+' ∧ c ≠ '-' ∧ c ≠ 'e' ∧ c ≠ 'E'

/-- Spelled as numbers are spelled here if their sign is left aside. -/
structure Tidy (cs : List Char) : Prop where
  chars : ∀ c ∈ cs, IsTidy c
  front : ∀ {d : Char} {rest : List Char}, cs = '0' :: d :: rest → d.isDigit = false

theorem Tidy.not_ornate {cs sign : List Char} (h : Tidy cs) (hsign : sign = [] ∨ sign = ['-']) :
    ¬ Ornate (sign ++ cs) := by
  have hchar : ∀ c ∈ sign ++ cs, c ≠ '+' ∧ c ≠ 'e' ∧ c ≠ 'E' := by
    intro c hc
    rcases List.mem_append.mp hc with hc | hc
    · rcases hsign with rfl | rfl
      · cases hc
      · rw [List.mem_singleton.mp hc]
        decide
    · exact ⟨(h.chars c hc).1, (h.chars c hc).2.2⟩
  rintro (hplus | (hexponent | hexponent) | ⟨hsign', hdigit, heq⟩)
  · exact (hchar _ hplus).1 rfl
  · exact (hchar _ hexponent).2.1 rfl
  · exact (hchar _ hexponent).2.2 rfl
  · rcases hsign with rfl | rfl <;> rcases hsign' with rfl | rfl
    · rw [h.front heq] at hdigit
      cases hdigit
    · rw [List.nil_append] at heq
      exact (h.chars '-' (by rw [heq]; exact List.mem_cons_self)).2.1 rfl
    · exact absurd (List.cons.inj heq).1 (by decide)
    · rw [h.front (List.cons.inj heq).2] at hdigit
      cases hdigit

/-! ### Digits -/

theorem isTidy_digitChar {d : Nat} (h : d < 10) : IsTidy (digitChar d) := by
  have hall : ∀ i : Fin 10, IsTidy (digitChar i) := by decide
  exact hall ⟨d, h⟩

theorem isTidy_of_mem_digits {n : Nat} {c : Char} (hc : c ∈ digits n) : IsTidy c := by
  obtain ⟨d, hd, rfl⟩ := mem_digits hc
  exact isTidy_digitChar hd

theorem tidy_of_cons {c : Char} {rest cs : List Char}
    (hchars : ∀ c ∈ cs, IsTidy c) (hcs : cs = c :: rest)
    (hc : c ≠ '0') : Tidy cs where
  chars := hchars
  front := by
    intro d rest' heq
    rw [hcs] at heq
    exact absurd (List.cons.inj heq).1 hc

theorem tidy_digits (n : Nat) : Tidy (digits n) := by
  rcases Nat.eq_zero_or_pos n with rfl | hpos
  · refine ⟨fun _ => isTidy_of_mem_digits, fun heq => ?_⟩
    rw [digits] at heq
    cases heq
  · obtain ⟨c, rest, hcs, hc⟩ := exists_digits_eq_cons hpos
    exact tidy_of_cons (fun _ => isTidy_of_mem_digits) hcs hc

/-- **Whole numbers are spelled plainly.** -/
theorem not_ornate_text (n : Int) : ¬ Ornate (text n).toList := by
  unfold text ofInt
  rw [String.toList_ofList]
  split
  · exact (tidy_digits n.natAbs).not_ornate (.inr rfl)
  · exact (tidy_digits n.natAbs).not_ornate (.inl rfl)

/-! ### The shortest decimal of a number -/

theorem power_pos {base : Nat} (h : 0 < base) (e : Int) :
    0 < (power base e).1 ∧ 0 < (power base e).2 := by
  unfold power
  split
  · exact ⟨Nat.pow_pos h, Nat.one_pos⟩
  · exact ⟨Nat.one_pos, Nat.pow_pos h⟩

/-- What rounds to a number that is not zero is not zero itself. -/
theorem Binary.pos_of_onGrid? {b : Binary} {place : Int} {c : Nat} (hb : 0 < b.mantissa)
    (h : b.onGrid? place = some c) : 0 < c := by
  have hlow : 0 < (4 * b.mantissa - (if b.narrowBelow then 1 else 2))
      * (power 2 (b.exponent - 2)).1 * (power 10 place).2 := by
    refine Nat.mul_pos (Nat.mul_pos ?_ (power_pos (by decide) _).1) (power_pos (by decide) _).2
    split <;> omega
  unfold onGrid? at h
  simp only at h
  generalize (4 * b.mantissa - (if b.narrowBelow then 1 else 2))
      * (power 2 (b.exponent - 2)).1 * (power 10 place).2 = low at h hlow
  generalize (power 10 place).1 * (power 2 (b.exponent - 2)).2 = unit at h
  generalize 4 * b.mantissa * (power 2 (b.exponent - 2)).1 * (power 10 place).2 / unit = below at h
  -- Zero lies below all that rounds to the number, so it is never the neighbour that is taken.
  have hinside : ∀ (even high highOdd : Bool),
      ¬ (if even then decide (low ≤ 0 * unit) && high else decide (low < 0 * unit) && highOdd)
        = true := by
    intro even high highOdd
    rw [Nat.zero_mul]
    cases even <;> simp [Nat.not_le.mpr hlow]
  refine Nat.pos_of_ne_zero ?_
  rintro rfl
  split at h
  · cases h
  · rename_i hbelow _
    cases h
    exact hinside _ _ _ hbelow
  · cases h
  · rename_i hbelow _
    split at h
    · cases h
      exact hinside _ _ _ hbelow
    · cases h

theorem Scaled.pos_stripped {s : Scaled} (h : 0 < s.digits) : 0 < s.stripped.digits := by
  induction s using Scaled.stripped.induct with
  | case1 s hzero ih =>
      rw [Scaled.stripped, dif_pos hzero]
      exact ih (by simp only; omega)
  | case2 s hzero =>
      rw [Scaled.stripped, dif_neg hzero]
      exact h

theorem Binary.search_cases {b : Binary} (hb : 0 < b.mantissa) (magnitude : Int) (left : Nat) :
    b.search magnitude left = ⟨0, 0⟩ ∨ 0 < (b.search magnitude left).digits := by
  induction left with
  | zero => exact .inl rfl
  | succ left ih =>
      rw [search]
      split
      · rename_i hgrid
        exact .inr (pos_of_onGrid? hb hgrid)
      · exact ih

/-- Zero is just zero. -/
theorem Binary.exponent_shortest {b : Binary} (h : b.shortest.digits = 0) :
    b.shortest.exponent = 0 := by
  unfold shortest at h ⊢
  split at h
  · rename_i hzero
    rw [if_pos hzero]
  · rename_i hzero
    rw [if_neg hzero]
    have hb : 0 < b.mantissa := Nat.pos_of_ne_zero (by simpa using hzero)
    rcases search_cases hb b.magnitude 17 with hnone | hpos
    · rw [hnone, Scaled.stripped]
      rfl
    · exact absurd h (Nat.ne_of_gt (Scaled.pos_stripped hpos))

/-! ### Numbers with a fraction -/

/-- Digits and a power of ten as the text of a setting: zeros or a point, or neither. -/
theorem plainText_setting (ds : List Char) (exponent : Int) :
    settingLayout.plainText ds exponent
      = if 0 ≤ exponent then ds ++ List.replicate exponent.toNat '0'
        else if (-exponent).toNat < ds.length then
          ds.take (ds.length - (-exponent).toNat) ++ '.' :: ds.drop (ds.length - (-exponent).toNat)
        else '0' :: '.' :: (List.replicate ((-exponent).toNat - ds.length) '0' ++ ds) := by
  unfold Layout.plainText
  split
  · exact List.append_nil _
  · rfl

/-- Digits with a point are spelled plainly, if zero has no power of ten. -/
theorem tidy_plainText {n : Nat} {exponent : Int} (hzero : n = 0 → exponent = 0) :
    Tidy (settingLayout.plainText (digits n) exponent) := by
  have hchars : ∀ c ∈ settingLayout.plainText (digits n) exponent, IsTidy c := by
    intro c hc
    rcases Layout.mem_plainText hc with hc | rfl | rfl
    · exact isTidy_of_mem_digits hc
    · decide
    · decide
  refine ⟨hchars, ?_⟩
  intro d rest heq
  rw [plainText_setting] at heq
  split at heq
  · rcases Nat.eq_zero_or_pos n with rfl | hpos
    · rw [hzero rfl, digits] at heq
      cases heq
    · obtain ⟨c, more, hdigits, hc⟩ := exists_digits_eq_cons hpos
      rw [hdigits] at heq
      exact absurd (List.cons.inj heq).1 hc
  · rename_i hnegative
    split at heq
    · rename_i hplaces
      have hpos : 0 < n := Nat.pos_of_ne_zero fun h => hnegative (Int.le_of_eq (hzero h).symm)
      obtain ⟨c, more, hdigits, hc⟩ := exists_digits_eq_cons hpos
      obtain ⟨k, hk⟩ := Nat.exists_eq_succ_of_ne_zero (Nat.sub_ne_zero_of_lt hplaces)
      rw [hk, hdigits, List.take_succ_cons, List.cons_append] at heq
      exact absurd (List.cons.inj heq).1 hc
    · rw [← (List.cons.inj (List.cons.inj heq).2).1]
      decide

/-- **All other numbers are spelled plainly too.** -/
theorem not_ornate_settingText (x : Float) : ¬ Ornate (settingLayout.text x).toList := by
  have hsign : ∀ b : Bool, (if b then ['-'] else []) = [] ∨ (if b then ['-'] else []) = ['-'] := by
    intro b
    cases b
    · exact .inl rfl
    · exact .inr rfl
  have hword : ∀ {word : List Char}, word.all (fun c => decide (IsTidy c ∧ c ≠ '0')) = true →
      Tidy word := by
    intro word hall
    have hchars : ∀ c ∈ word, IsTidy c ∧ c ≠ '0' :=
      fun c hc => of_decide_eq_true (List.all_eq_true.mp hall c hc)
    exact ⟨fun c hc => (hchars c hc).1, fun heq => absurd rfl (hchars '0' (by simp [heq])).2⟩
  unfold Layout.text Layout.chars
  rw [String.toList_ofList]
  simp only
  split
  · exact (hword rfl).not_ornate (.inl rfl)
  · split
    · exact (hword rfl).not_ornate (hsign _)
    · exact (tidy_plainText Binary.exponent_shortest).not_ornate (hsign _)

end HealthBoard.Decimal
