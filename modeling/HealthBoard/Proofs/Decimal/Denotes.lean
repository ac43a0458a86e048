/-
Which texts are decimals.

`Denotes` says so without reading: one sign or none, then digits, at least one, each of which counts
ten times what it would count one place further on.  A number has many decimals, since zeros in
front count nothing and a plus sign makes no other number of it.

`magnitude` reads from the left and gives up at the digit that takes it past the end of the range.
Nothing to the right of that digit can take it back (`le_mul_pow_add`), so it gives up exactly where
the whole number is past the end: `magnitude_eq_ok_iff`, by induction on the digits, for any value
read before them.  With the signs put in front, what is read as a 64-bit integer is what denotes one
(`readInteger_eq_ok_iff`).
-/
import HealthBoard.Proofs.Decimal
import HealthBoard.Proofs.Except
import Mathlib.Data.Nat.Digits.Defs
import Mathlib.Tactic.Ring

namespace HealthBoard.Decimal

/-- What a digit counts in the last place. -/
def unitValue (c : Char) : Nat := c.toNat - '0'.toNat

/-- The number that digits stand for, the greatest place first. -/
def placeValue (ds : List Char) : Nat := Nat.ofDigits 10 (ds.reverse.map unitValue)

/-- Digits of ASCII and nothing else, at least one. -/
structure Numeral (ds : List Char) : Prop where
  nonempty : ds ≠ []
  isDigit : ∀ c ∈ ds, c.isDigit = true

/-- The integer that a text denotes as a decimal, which is a numeral after one sign or none. -/
inductive Denotes : List Char → Int → Prop
  | bare {ds : List Char} (h : Numeral ds) : Denotes ds (placeValue ds)
  | plus {ds : List Char} (h : Numeral ds) : Denotes ('+' :: ds) (placeValue ds)
  | minus {ds : List Char} (h : Numeral ds) : Denotes ('-' :: ds) (-placeValue ds)

/-! ### Digits and their places -/

theorem digitValue?_of_isDigit {c : Char} (h : c.isDigit = true) :
    digitValue? c = some (unitValue c) := by
  obtain ⟨hlow, hhigh⟩ := Char.isDigit_iff_toNat.mp h
  exact if_pos ⟨hlow, hhigh⟩

theorem digitValue?_of_not_isDigit {c : Char} (h : ¬ c.isDigit = true) : digitValue? c = none :=
  if_neg fun hc => h (Char.isDigit_iff_toNat.mpr hc)

@[simp] theorem placeValue_nil : placeValue [] = 0 := rfl

theorem placeValue_cons (c : Char) (ds : List Char) :
    placeValue (c :: ds) = unitValue c * 10 ^ ds.length + placeValue ds := by
  unfold placeValue
  rw [List.reverse_cons, List.map_append, List.map_singleton, Nat.ofDigits_append,
    Nat.ofDigits_singleton, List.length_map, List.length_reverse]
  ring

/-- More digits make no number less. -/
theorem le_mul_pow_add (value places rest : Nat) : value ≤ value * 10 ^ places + rest :=
  Nat.le_add_right_of_le (Nat.le_mul_of_pos_right value (Nat.pow_pos (by decide)))

/--
**Digits are read exactly if their number is in the range.**  The value before them stands as many
places further to the left as there are digits.
-/
theorem magnitude_eq_ok_iff {greatest n : Nat} {overflow : IntegerFault} {cs : List Char} :
    ∀ {value : Nat}, value ≤ greatest → (magnitude greatest overflow value cs = .ok n ↔
      (∀ c ∈ cs, c.isDigit = true) ∧ n = value * 10 ^ cs.length + placeValue cs ∧
        n ≤ greatest) := by
  induction cs with
  | nil =>
      intro value hvalue
      constructor
      · intro h
        cases h
        exact ⟨by simp, by simp, hvalue⟩
      · rintro ⟨-, hn, -⟩
        simp [magnitude, hn]
  | cons c rest ih =>
      intro value hvalue
      have hplaces : value * 10 ^ (c :: rest).length + placeValue (c :: rest)
          = (10 * value + unitValue c) * 10 ^ rest.length + placeValue rest := by
        rw [placeValue_cons, List.length_cons, pow_succ]
        ring
      rw [hplaces, List.forall_mem_cons]
      by_cases hdigit : c.isDigit = true
      · by_cases hpast : greatest < 10 * value + unitValue c
        · simp only [magnitude, digitValue?_of_isDigit hdigit, if_pos hpast]
          constructor
          · intro h
            cases h
          · -- What is read so far is past the end, and the digits after it only add to it.
            rintro ⟨-, hn, hle⟩
            have := le_mul_pow_add (10 * value + unitValue c) rest.length (placeValue rest)
            omega
        · simp only [magnitude, digitValue?_of_isDigit hdigit, if_neg hpast,
            ih (Nat.not_lt.mp hpast), hdigit, true_and]
      · simp only [magnitude, digitValue?_of_not_isDigit hdigit]
        constructor
        · intro h
          cases h
        · rintro ⟨⟨hc, -⟩, -⟩
          exact absurd hc hdigit

theorem magnitude_eq_ok_iff_numeral {greatest n : Nat} {overflow : IntegerFault} {cs : List Char}
    (hne : cs ≠ []) : magnitude greatest overflow 0 cs = .ok n ↔
      Numeral cs ∧ n = placeValue cs ∧ n ≤ greatest := by
  rw [magnitude_eq_ok_iff (Nat.zero_le greatest), Nat.zero_mul, Nat.zero_add]
  exact and_congr_left fun _ => ⟨fun h => ⟨hne, h⟩, fun h => h.isDigit⟩

/-! ### Signs -/

theorem not_numeral_nil : ¬ Numeral [] := fun h => h.nonempty rfl

theorem not_numeral_cons {c : Char} {ds : List Char} (hc : c.isDigit = false) :
    ¬ Numeral (c :: ds) := by
  intro h
  rw [h.isDigit c List.mem_cons_self] at hc
  cases hc

theorem denotes_plus_iff {ds : List Char} {n : Int} :
    Denotes ('+' :: ds) n ↔ Numeral ds ∧ n = placeValue ds := by
  constructor
  · intro h
    cases h with
    | bare h => exact absurd h (not_numeral_cons (by decide))
    | plus h => exact ⟨h, rfl⟩
  · rintro ⟨h, rfl⟩
    exact .plus h

theorem denotes_minus_iff {ds : List Char} {n : Int} :
    Denotes ('-' :: ds) n ↔ Numeral ds ∧ n = -placeValue ds := by
  constructor
  · intro h
    cases h with
    | bare h => exact absurd h (not_numeral_cons (by decide))
    | minus h => exact ⟨h, rfl⟩
  · rintro ⟨h, rfl⟩
    exact .minus h

theorem denotes_bare_iff {ds : List Char} {n : Int} (hplus : ∀ rest, ds ≠ '+' :: rest)
    (hminus : ∀ rest, ds ≠ '-' :: rest) : Denotes ds n ↔ Numeral ds ∧ n = placeValue ds := by
  constructor
  · intro h
    cases h with
    | bare h => exact ⟨h, rfl⟩
    | plus h => exact absurd rfl (hplus _)
    | minus h => exact absurd rfl (hminus _)
  · rintro ⟨h, rfl⟩
    exact .bare h

/-! ### Decimals of a range

Zero is in the range.  So a number that is not negative can only be past its upper end, and a
negative one only past its lower end, and that end is the only one which is looked at.
-/

section Range

variable {least greatest n : Int} {cs : List Char}

/-- Digits are read as a number of the range, if the bound on them is the range of what is made of
them. -/
theorem map_magnitude_eq_ok_iff {bound : Nat} {overflow : IntegerFault} {signed : Nat → Int}
    (hbound : ∀ v, v ≤ bound ↔ least ≤ signed v ∧ signed v ≤ greatest) (hne : cs ≠ []) :
    (magnitude bound overflow 0 cs).map signed = .ok n ↔
      (Numeral cs ∧ n = signed (placeValue cs)) ∧ least ≤ n ∧ n ≤ greatest := by
  simp only [map_eq_ok_iff, magnitude_eq_ok_iff_numeral hne, hbound]
  constructor
  · rintro ⟨v, ⟨hnumeral, rfl, hrange⟩, rfl⟩
    exact ⟨⟨hnumeral, rfl⟩, hrange⟩
  · rintro ⟨⟨hnumeral, rfl⟩, hrange⟩
    exact ⟨_, ⟨hnumeral, rfl, hrange⟩, rfl⟩

/-- **A text is read as an integer of the range exactly if it denotes one.** -/
theorem readBetween_eq_ok_iff (hl : least ≤ 0) (hg : 0 ≤ greatest) :
    readBetween least greatest cs = .ok n ↔ Denotes cs n ∧ least ≤ n ∧ n ≤ greatest := by
  have hupper : ∀ v : Nat, v ≤ greatest.toNat ↔
      least ≤ Int.ofNat v ∧ Int.ofNat v ≤ greatest := by
    intro v
    rw [Int.ofNat_eq_natCast]
    omega
  have hlower : ∀ v : Nat, v ≤ (-least).toNat ↔
      least ≤ -Int.ofNat v ∧ -Int.ofNat v ≤ greatest := by
    intro v
    rw [Int.ofNat_eq_natCast]
    omega
  unfold readBetween
  split
  case h_1 => simp [denotes_bare_iff, not_numeral_nil]
  case h_2 => simp [denotes_plus_iff, not_numeral_nil]
  case h_3 => simp [denotes_minus_iff, not_numeral_nil]
  case h_4 rest hsome =>
    have hne : rest ≠ [] := by simpa using hsome
    rw [denotes_plus_iff]
    exact map_magnitude_eq_ok_iff hupper hne
  case h_5 rest hsome =>
    have hne : rest ≠ [] := by simpa using hsome
    rw [denotes_minus_iff]
    exact map_magnitude_eq_ok_iff hlower hne
  case h_6 hne _ _ hplus hminus =>
    rw [denotes_bare_iff hplus hminus]
    exact map_magnitude_eq_ok_iff hupper hne

end Range

/-- **A text is read as a 64-bit integer exactly if it denotes it.** -/
theorem readInteger_eq_ok_iff {s : String} {n : Int64} :
    readInteger s = .ok n ↔ Denotes s.toList n.toInt := by
  have hl : leastInteger ≤ n.toInt := n.le_toInt
  have hg : n.toInt ≤ greatestInteger := n.toInt_le
  unfold readInteger
  rw [map_eq_ok_iff]
  constructor
  · rintro ⟨m, hread, rfl⟩
    obtain ⟨hdenotes, hlow, hhigh⟩ := (readBetween_eq_ok_iff (by decide) (by decide)).mp hread
    rwa [Int64.toInt_ofInt_of_le hlow (Int.lt_add_one_of_le hhigh)]
  · intro hdenotes
    exact ⟨n.toInt, (readBetween_eq_ok_iff (by decide) (by decide)).mpr ⟨hdenotes, hl, hg⟩,
      Int64.ofInt_toInt n⟩

end HealthBoard.Decimal
