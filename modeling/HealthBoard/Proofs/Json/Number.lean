/-
Numbers in a text.

Two things are needed of the reader of numbers.  A whole number is read back from the decimal that
is written for it.  And of any number the reader takes the same part of the text whether the text
ends behind the number or goes on with a comma or a closing bracket: `Stops` says so of one step of
the reader, and is carried from the innermost, the digits of an exponent, to the number as a whole.
So whether a number is read back can be asked of its own text alone.
-/
import HealthBoard.Proofs.Decimal
import HealthBoard.Proofs.Json.ReadBack

namespace HealthBoard.Json

open Reader

/-! ### The byte behind a number -/

theorem EndsValue.isDigit_eq_false {rest : List UInt8} (h : EndsValue rest) :
    ∀ b ∈ rest.head?, isDigit b = false := by
  intro b hb
  rcases h b hb with rfl | rfl | rfl <;> rfl

/-- Digits end where no digit follows. -/
theorem takeWhile_isDigit_append {text rest : List UInt8}
    (h : ∀ b ∈ rest.head?, isDigit b = false) :
    (text ++ rest).takeWhile isDigit = text.takeWhile isDigit := by
  induction text with
  | nil =>
      cases rest with
      | nil => rfl
      | cons b rest =>
          have hb : isDigit b = false := h b rfl
          simp [hb]
  | cons b text ih =>
      by_cases hb : isDigit b = true
      · rw [List.cons_append, List.takeWhile_cons_of_pos hb, List.takeWhile_cons_of_pos hb, ih]
      · rw [List.cons_append, List.takeWhile_cons_of_neg hb, List.takeWhile_cons_of_neg hb]

theorem dropWhile_isDigit_append {text rest : List UInt8}
    (h : ∀ b ∈ rest.head?, isDigit b = false) :
    (text ++ rest).dropWhile isDigit = text.dropWhile isDigit ++ rest := by
  induction text with
  | nil =>
      cases rest with
      | nil => rfl
      | cons b rest =>
          have hb : isDigit b = false := h b rfl
          simp [hb]
  | cons b text ih =>
      by_cases hb : isDigit b = true
      · rw [List.cons_append, List.dropWhile_cons_of_pos hb, List.dropWhile_cons_of_pos hb, ih]
      · rw [List.cons_append, List.dropWhile_cons_of_neg hb, List.dropWhile_cons_of_neg hb]
        rfl

/-! ### What follows does not matter -/

/-- The reader takes a part from the front, and the same one if the end of a value follows. -/
def Stops {α : Type} (r : Reader α) : Prop :=
  ∀ ⦃text left : List UInt8⦄ ⦃a : α⦄, r text = .ok a left →
    left <:+ text ∧ ∀ rest, EndsValue rest → r (text ++ rest) = .ok a (left ++ rest)

theorem stops_scaled (negative : Bool) (significand : Nat) (exponent : Int) :
    Stops (scaled negative significand exponent) := by
  intro text left a h
  unfold scaled at h ⊢
  cases hscale : scaleTen significand.toUInt64.toFloat exponent with
  | none =>
      rw [hscale] at h
      cases h
  | some x =>
      rw [hscale] at h
      cases h
      exact ⟨List.suffix_rfl, fun rest _ => rfl⟩

theorem stops_exponentDigits (negative negativeExponent : Bool) (significand : Nat) (start : Int) :
    ∀ e, Stops (exponentDigits negative negativeExponent significand start e) := by
  intro e text
  induction text generalizing e with
  | nil =>
      intro left a h
      have hscaled := stops_scaled negative significand _ h
      refine ⟨hscaled.1, ?_⟩
      intro rest hrest
      cases rest with
      | nil => exact hscaled.2 [] hrest
      | cons b rest =>
          have hb : isDigit b = false := hrest.isDigit_eq_false b rfl
          rw [List.nil_append, exponentDigits, if_neg (by simp [hb])]
          exact hscaled.2 (b :: rest) hrest
  | cons b text ih =>
      intro left a h
      rw [exponentDigits] at h
      split at h
      · rename_i hb
        split at h
        · rename_i hlarge
          split at h
          · cases h
          · rename_i hzero
            cases h
            refine ⟨(List.dropWhile_suffix _).trans (List.suffix_cons _ _), ?_⟩
            intro rest hrest
            rw [List.cons_append, exponentDigits, if_pos hb, if_pos hlarge, if_neg hzero,
              dropWhile_isDigit_append hrest.isDigit_eq_false]
        · rename_i hsmall
          obtain ⟨hsuffix, hsame⟩ := ih _ h
          refine ⟨hsuffix.trans (List.suffix_cons _ _), ?_⟩
          intro rest hrest
          rw [List.cons_append, exponentDigits, if_pos hb, if_neg hsmall]
          exact hsame rest hrest
      · rename_i hb
        have hscaled := stops_scaled negative significand _ h
        refine ⟨hscaled.1, ?_⟩
        intro rest hrest
        rw [List.cons_append, exponentDigits, if_neg hb]
        exact hscaled.2 rest hrest

/-- An exponent from its first digit on. -/
theorem exponent_digit {negative : Bool} {significand : Nat} {start : Int} {b : UInt8}
    (hb : isDigit b = true) (text : List UInt8) :
    exponent negative significand start (b :: text)
      = exponentDigits negative false significand start (digitValue b) text := by
  have hminus : b ≠ 0x2D := by
    rintro rfl
    cases hb
  have hplus : b ≠ 0x2B := by
    rintro rfl
    cases hb
  have hpositive : (b == 0x2D) = false := beq_eq_false_iff_ne.mpr hminus
  simp [exponent, peek, next, bind, EStateM.bind, hb, hplus, hpositive]

theorem exponent_sign {negative : Bool} {significand : Nat} {start : Int} {b c : UInt8}
    (hb : b = 0x2D ∨ b = 0x2B) (hc : isDigit c = true) (text : List UInt8) :
    exponent negative significand start (b :: c :: text)
      = exponentDigits negative (b == 0x2D) significand start (digitValue c) text := by
  rcases hb with rfl | rfl <;>
    simp [exponent, peek, next, skip, bind, EStateM.bind, hc]

/-- An exponent begins with a digit, or with a sign and a digit. -/
theorem exponent_ok {negative : Bool} {significand : Nat} {start : Int} {text left : List UInt8}
    {a : Json} (h : exponent negative significand start text = .ok a left) :
    (∃ b more, text = b :: more ∧ isDigit b = true) ∨
      ∃ b c more, text = b :: c :: more ∧ (b = 0x2D ∨ b = 0x2B) ∧ isDigit c = true := by
  cases text with
  | nil => cases h
  | cons b text =>
      by_cases hsign : b = 0x2D ∨ b = 0x2B
      · cases text with
        | nil => rcases hsign with rfl | rfl <;> cases h
        | cons c text =>
            by_cases hc : isDigit c = true
            · exact .inr ⟨b, c, text, rfl, hsign, hc⟩
            · rcases hsign with rfl | rfl <;>
                simp [exponent, peek, next, skip, fail, bind, EStateM.bind, hc] at h
      · by_cases hb : isDigit b = true
        · exact .inl ⟨b, text, rfl, hb⟩
        · obtain ⟨hminus, hplus⟩ := not_or.mp hsign
          simp [exponent, peek, next, fail, bind, EStateM.bind, hb, hminus, hplus] at h

theorem stops_exponent (negative : Bool) (significand : Nat) (start : Int) :
    Stops (exponent negative significand start) := by
  intro text left a h
  rcases exponent_ok h with ⟨b, more, rfl, hb⟩ | ⟨b, c, more, rfl, hsign, hc⟩
  · rw [exponent_digit hb] at h
    obtain ⟨hsuffix, hsame⟩ := stops_exponentDigits negative false significand start _ h
    refine ⟨hsuffix.trans (List.suffix_cons _ _), ?_⟩
    intro rest hrest
    rw [List.cons_append, exponent_digit hb]
    exact hsame rest hrest
  · rw [exponent_sign hsign hc] at h
    obtain ⟨hsuffix, hsame⟩ := stops_exponentDigits negative _ significand start _ h
    refine ⟨(hsuffix.trans (List.suffix_cons _ _)).trans (List.suffix_cons _ _), ?_⟩
    intro rest hrest
    rw [List.cons_append, List.cons_append, exponent_sign hsign hc]
    exact hsame rest hrest

/-- The exponent that may follow, and what is read if none does. -/
def exponentOr (negative : Bool) (significand : Nat) (start : Int) (r : Reader Json) :
    Reader Json := do
  match ← peek with
  | some 0x65 | some 0x45 => do
    skip
    exponent negative significand start
  | _ => r

theorem stops_exponentOr {negative : Bool} {significand : Nat} {start : Int} {r : Reader Json}
    (hr : Stops r) : Stops (exponentOr negative significand start r) := by
  intro text left a h
  cases text with
  | nil =>
      obtain ⟨hsuffix, hsame⟩ := hr h
      refine ⟨hsuffix, ?_⟩
      intro rest hrest
      cases rest with
      | nil => exact hsame [] hrest
      | cons b rest =>
          rw [← hsame (b :: rest) hrest]
          rcases hrest b rfl with rfl | rfl | rfl <;> rfl
  | cons b text =>
      by_cases he : b = 0x65 ∨ b = 0x45
      · have hexponent : exponent negative significand start text = .ok a left := by
          rcases he with rfl | rfl <;> exact h
        obtain ⟨hsuffix, hsame⟩ := stops_exponent negative significand start hexponent
        refine ⟨hsuffix.trans (List.suffix_cons _ _), ?_⟩
        intro rest hrest
        rw [← hsame rest hrest]
        rcases he with rfl | rfl <;> rfl
      · obtain ⟨hsmall, hlarge⟩ := not_or.mp he
        simp [exponentOr, peek, bind, EStateM.bind, hsmall, hlarge] at h
        obtain ⟨hsuffix, hsame⟩ := hr h
        refine ⟨hsuffix, ?_⟩
        intro rest hrest
        rw [← hsame rest hrest]
        simp [exponentOr, peek, bind, EStateM.bind, hsmall, hlarge]

/-- What follows the digits of a fraction. -/
def fractionTail (negative : Bool) (dropped : Nat) (significand taken : Nat) : Reader Json :=
  exponentOr negative significand (dropped - taken)
    (scaled negative significand (dropped - taken))

/-- A fraction begins with a digit. -/
theorem fraction_eq {negative : Bool} {significand dropped : Nat} {text : List UInt8}
    (hdigits : text.takeWhile isDigit ≠ []) :
    fraction negative significand dropped text
      = fractionTail negative dropped
          (fractionDigits significand ((text.takeWhile isDigit).map digitValue)).1
          (fractionDigits significand ((text.takeWhile isDigit).map digitValue)).2
          (text.dropWhile isDigit) := by
  have hsome : ((text.takeWhile isDigit).map digitValue).isEmpty = false := by
    simpa using hdigits
  have hread : Reader.digits text
      = .ok ((text.takeWhile isDigit).map digitValue) (text.dropWhile isDigit) := rfl
  rw [fraction, bind_of_ok hread, if_neg (by simp [hsome])]
  rfl

theorem fraction_ok {negative : Bool} {significand dropped : Nat} {text left : List UInt8}
    {a : Json} (h : fraction negative significand dropped text = .ok a left) :
    text.takeWhile isDigit ≠ [] := by
  intro hnone
  have hread : Reader.digits text = .ok [] (text.dropWhile isDigit) := by
    rw [Reader.digits, hnone]
    rfl
  rw [fraction, bind_of_ok hread, if_pos (by rfl)] at h
  cases hhead : (text.dropWhile isDigit).head? with
  | none => simp [peek, bind, EStateM.bind, hhead, failNext] at h
  | some b => simp [peek, bind, EStateM.bind, hhead, failNext] at h

theorem stops_fraction (negative : Bool) (significand dropped : Nat) :
    Stops (fraction negative significand dropped) := by
  intro text left a h
  have hdigits := fraction_ok h
  rw [fraction_eq hdigits] at h
  obtain ⟨hsuffix, hsame⟩ := stops_exponentOr (stops_scaled _ _ _) h
  refine ⟨hsuffix.trans (List.dropWhile_suffix _), ?_⟩
  intro rest hrest
  have hends := hrest.isDigit_eq_false
  rw [fraction_eq (by rwa [takeWhile_isDigit_append hends]), takeWhile_isDigit_append hends,
    dropWhile_isDigit_append hends]
  exact hsame rest hrest

/-- Without a point, what follows the digits is an exponent or nothing. -/
theorem numberTail_of_head? {negative : Bool} {significand dropped : Nat} {text : List UInt8}
    (h : text.head? ≠ some 0x2E) :
    numberTail negative significand dropped text
      = exponentOr negative significand dropped
          (if dropped == 0 then pure (wholeNumber negative significand)
            else scaled negative significand dropped) text := by
  cases text with
  | nil => rfl
  | cons b text =>
      have hb : b ≠ 0x2E := fun heq => h (by rw [heq]; rfl)
      by_cases he : b = 0x65 ∨ b = 0x45
      · rcases he with rfl | rfl <;> rfl
      · obtain ⟨hsmall, hlarge⟩ := not_or.mp he
        simp [numberTail, exponentOr, peek, bind, EStateM.bind, hsmall, hlarge, hb]

theorem stops_numberTail (negative : Bool) (significand dropped : Nat) :
    Stops (numberTail negative significand dropped) := by
  intro text left a h
  by_cases hpoint : text.head? = some 0x2E
  · obtain ⟨more, rfl⟩ : ∃ more, text = 0x2E :: more := List.head?_eq_some_iff.mp hpoint
    obtain ⟨hsuffix, hsame⟩ := stops_fraction negative significand dropped h
    exact ⟨hsuffix.trans (List.suffix_cons _ _), hsame⟩
  · rw [numberTail_of_head? hpoint] at h
    have hplain : Stops (if dropped == 0 then pure (wholeNumber negative significand)
        else scaled negative significand dropped) := by
      split
      · intro text left a h
        cases h
        exact ⟨List.suffix_rfl, fun _ _ => rfl⟩
      · exact stops_scaled negative significand dropped
    obtain ⟨hsuffix, hsame⟩ := stops_exponentOr hplain h
    refine ⟨hsuffix, ?_⟩
    intro rest hrest
    rw [numberTail_of_head?, hsame rest hrest]
    cases text with
    | nil =>
        intro hhead
        rcases hrest 0x2E hhead with h | h | h <;> cases h
    | cons b text => exact hpoint

/-- A leading zero stands alone. -/
theorem number_zero {negative : Bool} {text : List UInt8}
    (h : ∀ b ∈ text.head?, isDigit b = false) :
    Reader.number negative (0x30 :: text) = numberTail negative 0 0 text := by
  cases text with
  | nil => rfl
  | cons b text =>
      have hb : isDigit b = false := h b rfl
      simp [Reader.number, next, peek, bind, EStateM.bind, hb]

theorem number_digits {negative : Bool} {b : UInt8} {text : List UInt8} (hb : isDigit b = true)
    (hzero : b ≠ 0x30) :
    Reader.number negative (b :: text)
      = (fun whole : Nat × Nat => numberTail negative whole.1 whole.2)
          (wholeDigits (digitValue b :: (text.takeWhile isDigit).map digitValue))
          (text.dropWhile isDigit) := by
  have hread : Reader.digits text
      = .ok ((text.takeWhile isDigit).map digitValue) (text.dropWhile isDigit) := rfl
  simp [Reader.number, next, bind, EStateM.bind, hb, hzero, hread]

/-- A number begins with a digit, and no digit stands after a leading zero. -/
theorem number_ok {negative : Bool} {text left : List UInt8} {a : Json}
    (h : Reader.number negative text = .ok a left) :
    ∃ b more, text = b :: more ∧ isDigit b = true ∧
      (b = 0x30 → ∀ c ∈ more.head?, isDigit c = false) := by
  cases text with
  | nil => cases h
  | cons b more =>
      have hb : isDigit b = true := by
        cases hb : isDigit b with
        | true => rfl
        | false =>
            have hzero : b ≠ 0x30 := by
              rintro rfl
              cases hb
            simp [Reader.number, next, fail, bind, EStateM.bind, hb, hzero] at h
      refine ⟨b, more, rfl, hb, ?_⟩
      rintro rfl c hc
      obtain ⟨later, rfl⟩ : ∃ later, more = c :: later := List.head?_eq_some_iff.mp hc
      cases hdigit : isDigit c with
      | false => rfl
      | true => simp [Reader.number, next, peek, failNext, bind, EStateM.bind, hdigit] at h

/-- **Of a number the same part is read whatever follows it.** -/
theorem stops_number (negative : Bool) : Stops (Reader.number negative) := by
  intro text left a h
  obtain ⟨b, more, rfl, hb, hlone⟩ := number_ok h
  by_cases hzero : b = 0x30
  · subst hzero
    rw [number_zero (hlone rfl)] at h
    obtain ⟨hsuffix, hsame⟩ := stops_numberTail negative 0 0 h
    refine ⟨hsuffix.trans (List.suffix_cons _ _), ?_⟩
    intro rest hrest
    rw [List.cons_append, number_zero, hsame rest hrest]
    cases more with
    | nil => exact hrest.isDigit_eq_false
    | cons c more => exact hlone rfl
  · rw [number_digits hb hzero] at h
    obtain ⟨hsuffix, hsame⟩ := stops_numberTail negative _ _ h
    refine ⟨(hsuffix.trans (List.dropWhile_suffix _)).trans (List.suffix_cons _ _), ?_⟩
    intro rest hrest
    rw [List.cons_append, number_digits hb hzero,
      takeWhile_isDigit_append hrest.isDigit_eq_false,
      dropWhile_isDigit_append hrest.isDigit_eq_false]
    exact hsame rest hrest

/-! ### Nothing but numbers -/

/-- The value is a number. -/
def IsNumber : Json → Prop
  | .int _ | .float _ => True
  | _ => False

section IsNumber

variable {negative : Bool} {significand : Nat} {text left : List UInt8} {j : Json}

theorem isNumber_of_scaled {e : Int} (h : scaled negative significand e text = .ok j left) :
    IsNumber j := by
  unfold scaled at h
  cases hscale : scaleTen significand.toUInt64.toFloat e with
  | none =>
      rw [hscale] at h
      cases h
  | some x =>
      rw [hscale] at h
      cases h
      trivial

theorem isNumber_of_exponentDigits {negativeExponent : Bool} {start : Int} : ∀ {e : Nat},
    exponentDigits negative negativeExponent significand start e text = .ok j left →
      IsNumber j := by
  induction text with
  | nil =>
      intro e h
      exact isNumber_of_scaled h
  | cons b text ih =>
      intro e h
      rw [exponentDigits] at h
      split at h
      · split at h
        · split at h
          · cases h
          · cases h
            trivial
        · exact ih h
      · exact isNumber_of_scaled h

theorem isNumber_of_exponent {start : Int}
    (h : exponent negative significand start text = .ok j left) : IsNumber j := by
  rcases exponent_ok h with ⟨b, more, rfl, hb⟩ | ⟨b, c, more, rfl, hsign, hc⟩
  · rw [exponent_digit hb] at h
    exact isNumber_of_exponentDigits h
  · rw [exponent_sign hsign hc] at h
    exact isNumber_of_exponentDigits h

theorem isNumber_of_exponentOr {start : Int} {r : Reader Json}
    (hr : ∀ {text left j}, r text = .ok j left → IsNumber j)
    (h : exponentOr negative significand start r text = .ok j left) : IsNumber j := by
  cases text with
  | nil => exact hr h
  | cons b text =>
      by_cases he : b = 0x65 ∨ b = 0x45
      · have hexponent : exponent negative significand start text = .ok j left := by
          rcases he with rfl | rfl <;> exact h
        exact isNumber_of_exponent hexponent
      · obtain ⟨hsmall, hlarge⟩ := not_or.mp he
        simp [exponentOr, peek, bind, EStateM.bind, hsmall, hlarge] at h
        exact hr h

theorem isNumber_of_numberTail {dropped : Nat}
    (h : numberTail negative significand dropped text = .ok j left) : IsNumber j := by
  by_cases hpoint : text.head? = some 0x2E
  · obtain ⟨more, rfl⟩ : ∃ more, text = 0x2E :: more := List.head?_eq_some_iff.mp hpoint
    have hfraction : fraction negative significand dropped more = .ok j left := h
    rw [fraction_eq (fraction_ok hfraction)] at hfraction
    exact isNumber_of_exponentOr isNumber_of_scaled hfraction
  · rw [numberTail_of_head? hpoint] at h
    refine isNumber_of_exponentOr ?_ h
    intro text left j h
    split at h
    · cases h
      unfold wholeNumber
      split
      · trivial
      · split <;> trivial
    · exact isNumber_of_scaled h

theorem isNumber_of_number (h : Reader.number negative text = .ok j left) : IsNumber j := by
  obtain ⟨b, more, rfl, hb, hlone⟩ := number_ok h
  by_cases hzero : b = 0x30
  · subst hzero
    rw [number_zero (hlone rfl)] at h
    exact isNumber_of_numberTail h
  · rw [number_digits hb hzero] at h
    exact isNumber_of_numberTail h

end IsNumber

/-! ### Whole numbers -/

theorem utf8EncodeChar_digitChar {d : Nat} (h : d < 10) :
    ∃ b, String.utf8EncodeChar (Decimal.digitChar d) = [b] ∧ isDigit b = true ∧
      digitValue b = d := by
  have hall : ∀ i : Fin 10, ∃ b, String.utf8EncodeChar (Decimal.digitChar i) = [b] ∧
      isDigit b = true ∧ digitValue b = i := by
    intro i
    refine ⟨UInt8.ofNat (0x30 + i), ?_⟩
    revert i
    decide
  exact hall ⟨d, h⟩

/-- The digits that are written for a number are digits for the reader. -/
theorem isDigit_of_mem_digits {n : Nat} {b : UInt8} (h : b ∈ Text.bytes (Decimal.digits n)) :
    isDigit b = true := by
  obtain ⟨c, hc, hb⟩ := List.mem_flatMap.mp h
  obtain ⟨d, hd, rfl⟩ := Decimal.mem_digits hc
  obtain ⟨b', hbytes, hdigit, -⟩ := utf8EncodeChar_digitChar hd
  rw [hbytes, List.mem_singleton] at hb
  rw [hb]
  exact hdigit

/-- Digits that fit are all taken. -/
theorem wholeDigits_append {ds : List Nat} {d value : Nat} (h : wholeDigits ds = (value, 0))
    (hfits : 10 * value + d ≤ greatestSignificand) :
    wholeDigits (ds ++ [d]) = (10 * value + d, 0) := by
  rw [wholeDigits] at h ⊢
  rw [List.foldl_append, h]
  simp [hfits]

theorem wholeDigits_digits {n : Nat} (h : n ≤ greatestSignificand) :
    wholeDigits ((Text.bytes (Decimal.digits n)).map digitValue) = (n, 0) := by
  induction n using Decimal.digits.induct with
  | case1 n hlt =>
      obtain ⟨b, hbytes, -, hvalue⟩ := utf8EncodeChar_digitChar hlt
      rw [Decimal.digits, if_pos hlt, Text.bytes_cons, hbytes]
      simpa [wholeDigits, hvalue] using h
  | case2 n hge ih =>
      obtain ⟨b, hbytes, -, hvalue⟩ := utf8EncodeChar_digitChar (Nat.mod_lt n (by decide : 0 < 10))
      have hfront := ih (by omega)
      rw [Decimal.digits, if_neg hge, Text.bytes_append, List.map_append, Text.bytes_cons, hbytes]
      have hfits : 10 * (n / 10) + n % 10 ≤ greatestSignificand := by omega
      have happend := wholeDigits_append hfront hfits
      have hsame : 10 * (n / 10) + n % 10 = n := by omega
      rw [hsame] at happend
      simpa [hvalue] using happend

/-- No zero stands in front of the digits of a number. -/
theorem digits_cons {n : Nat} (h : 0 < n) :
    ∃ b more, Text.bytes (Decimal.digits n) = b :: more ∧ b ≠ 0x30 := by
  obtain ⟨c, rest, hdigits, hc⟩ := Decimal.exists_digits_eq_cons h
  obtain ⟨d, hd, rfl⟩ := Decimal.mem_digits (by rw [hdigits]; exact List.mem_cons_self)
  obtain ⟨b, hbytes, -, hvalue⟩ := utf8EncodeChar_digitChar hd
  refine ⟨b, Text.bytes rest, ?_, ?_⟩
  · rw [hdigits, Text.bytes_cons, hbytes]
    rfl
  · rintro rfl
    exact hc (hvalue ▸ rfl)

/-- The digits of a number, wherever they end. -/
theorem takeWhile_isDigit_digits {ds rest : List UInt8} (hds : ∀ b ∈ ds, isDigit b = true)
    (hrest : ∀ b ∈ rest.head?, isDigit b = false) :
    (ds ++ rest).takeWhile isDigit = ds ∧ (ds ++ rest).dropWhile isDigit = rest := by
  have htake : ([] ++ rest).takeWhile isDigit = [] := takeWhile_isDigit_append hrest
  have hdrop : ([] ++ rest).dropWhile isDigit = rest := dropWhile_isDigit_append hrest
  rw [List.nil_append] at htake hdrop
  rw [List.takeWhile_append_of_pos hds, List.dropWhile_append_of_pos hds, htake, hdrop,
    List.append_nil]
  exact ⟨rfl, rfl⟩

/-- **The digits that are written for a number are read as the number.** -/
theorem number_text {negative : Bool} {n : Nat} {rest : List UInt8} (h : n ≤ greatestSignificand)
    (hrest : EndsValue rest) :
    Reader.number negative (Text.bytes (Decimal.digits n) ++ rest)
      = .ok (wholeNumber negative n) rest := by
  have htail : numberTail negative n 0 rest = .ok (wholeNumber negative n) rest := by
    cases rest with
    | nil => rfl
    | cons b rest => rcases hrest b rfl with rfl | rfl | rfl <;> rfl
  by_cases hzero : n = 0
  · subst hzero
    have htext : Text.bytes (Decimal.digits 0) = [0x30] := by
      rw [Decimal.digits, if_pos (by decide)]
      rfl
    rw [htext, List.singleton_append, number_zero hrest.isDigit_eq_false, htail]
  · obtain ⟨b, more, htext, hb⟩ := digits_cons (Nat.pos_of_ne_zero hzero)
    have hall : ∀ c ∈ b :: more, isDigit c = true := by
      intro c hc
      rw [← htext] at hc
      exact isDigit_of_mem_digits hc
    obtain ⟨htake, hdrop⟩ :=
      takeWhile_isDigit_digits (fun c hc => hall c (List.mem_cons_of_mem b hc))
        hrest.isDigit_eq_false
    have hwhole := wholeDigits_digits h
    rw [htext, List.map_cons] at hwhole
    rw [htext, List.cons_append, number_digits (hall b List.mem_cons_self) hb, htake, hdrop,
      hwhole]
    exact htail

/-! ### Values that are numbers -/

theorem isSpace_of_isDigit {b : UInt8} (h : isDigit b = true) : isSpace b = false := by
  cases hspace : isSpace b with
  | false => rfl
  | true =>
      simp only [isSpace, Bool.or_eq_true, beq_iff_eq] at hspace
      rcases hspace with ((rfl | rfl) | rfl) | rfl <;> cases h

theorem beq_of_isDigit {b c : UInt8} (hb : isDigit b = true) (hc : isDigit c = false) :
    (b == c) = false := by
  refine beq_eq_false_iff_ne.mpr ?_
  rintro rfl
  rw [hb] at hc
  cases hc

theorem dropWhile_isSpace_cons {b : UInt8} {text : List UInt8} (h : isSpace b = false) :
    (b :: text).dropWhile isSpace = b :: text :=
  List.dropWhile_cons_of_neg (by simp [h])

theorem numeric_minus {α : Type} {wanted : String} {accept : Json → Except Mismatch α}
    {text more rest : List UInt8} {j : Json} {a : α}
    (hstart : text.dropWhile isSpace = 0x2D :: more) (h : Reader.number true more = .ok j rest)
    (haccept : accept j = .ok a) : numeric wanted accept text = .ok a rest := by
  have hskip : skip (0x2D :: more) = .ok () more := rfl
  rw [numeric, bind_of_ok (valueStart_of_dropWhile hstart), if_pos (by rfl), bind_of_ok hskip,
    bind_of_ok h, haccept]
  rfl

theorem numeric_plain {α : Type} {wanted : String} {accept : Json → Except Mismatch α}
    {text more rest : List UInt8} {j : Json} {a : α} (hstart : text.dropWhile isSpace = more)
    (h : Reader.number false more = .ok j rest) (haccept : accept j = .ok a) :
    numeric wanted accept text = .ok a rest := by
  obtain ⟨b, more, rfl, hb, -⟩ := number_ok h
  have hminus : b ≠ 0x2D := by
    rintro rfl
    cases hb
  rw [numeric, bind_of_ok (valueStart_of_dropWhile hstart), if_neg (by simpa using hminus),
    if_pos hb, bind_of_ok h, haccept]
  rfl

/-- **A whole number of 64 bits is read back.** -/
theorem integer_readsBack (depth : Nat) (n : Int64) : Shape.integer.ReadsBack depth n := by
  intro rest hrest
  have hl : leastInteger ≤ n.toInt := n.le_toInt
  have hg : n.toInt ≤ greatestInteger := n.toInt_le
  have haccept : asInteger (.int n.toInt) = .ok n := by
    rw [asInteger, if_pos ⟨hl, hg⟩, Int64.ofInt_toInt]
  have hfits : n.toInt.natAbs ≤ greatestSignificand := by
    unfold leastInteger at hl
    unfold greatestInteger at hg
    unfold greatestSignificand
    omega
  show numeric _ asInteger (Text.bytes (Decimal.ofInt n.toInt) ++ rest) = .ok n rest
  rw [Decimal.ofInt]
  by_cases hneg : n.toInt < 0
  · rw [if_pos hneg]
    have hwhole : wholeNumber true n.toInt.natAbs = .int n.toInt := by
      have hzero : n.toInt.natAbs ≠ 0 := by omega
      have hleast : ¬ -leastInteger < (n.toInt.natAbs : Int) := by omega
      have hvalue : -(n.toInt.natAbs : Int) = n.toInt := by omega
      have hlarge : (n.toInt.natAbs == 0 || decide (-leastInteger < (n.toInt.natAbs : Int)))
          = false := by
        rw [beq_false_of_ne hzero, decide_eq_false hleast]
        rfl
      rw [wholeNumber, if_neg (by decide), hlarge, if_neg (by decide), hvalue]
    exact numeric_minus rfl (number_text hfits hrest) (by rw [hwhole, haccept])
  · rw [if_neg hneg]
    have hwhole : wholeNumber false n.toInt.natAbs = .int n.toInt := by
      have hvalue : (n.toInt.natAbs : Int) = n.toInt := by omega
      simp [wholeNumber, hvalue]
    have hread := @number_text false _ _ hfits hrest
    obtain ⟨b, more, htext, hb, -⟩ := number_ok hread
    have hstart : (Text.bytes (Decimal.digits n.toInt.natAbs) ++ rest).dropWhile isSpace
        = Text.bytes (Decimal.digits n.toInt.natAbs) ++ rest := by
      rw [htext, dropWhile_isSpace_cons (isSpace_of_isDigit hb)]
    exact numeric_plain hstart hread (by rw [hwhole, haccept])

/-! ### Numbers with a fraction -/

/-- The reader complains, whatever the text is. -/
def Complains {α : Type} (r : Reader α) : Prop := ∀ text left a, r text ≠ .ok a left

theorem complains_bind {α β : Type} {r : Reader α} {f : α → Reader β}
    (h : ∀ a, Complains (f a)) : Complains (r >>= f) := by
  intro text left b hok
  obtain ⟨a, rest, -, hok⟩ := exists_of_bind_ok hok
  exact h a rest left b hok

/-- What is not wanted is never read. -/
theorem complains_refuse {α : Type} (wanted : String) : Complains (refuse wanted : Reader α) := by
  have hmismatch : ∀ m, Complains (mismatch m : Reader α) := fun m text left a h => by cases h
  have hfail : ∀ fault, Complains (failNext fault : Reader α) := fun m text left a h => by cases h
  refine complains_bind fun head => ?_
  cases head with
  | none => exact hfail _
  | some b =>
      simp only
      split
      · exact complains_bind fun _ => complains_bind fun _ => hmismatch _
      split
      · exact complains_bind fun _ => complains_bind fun _ => hmismatch _
      split
      · exact complains_bind fun _ => complains_bind fun _ => hmismatch _
      split
      · exact complains_bind fun _ => complains_bind fun _ => hmismatch _
      split
      · exact complains_bind fun _ => hmismatch _
      split
      · exact complains_bind fun _ => complains_bind fun _ => hmismatch _
      split
      · exact hmismatch _
      split
      · exact hmismatch _
      · exact hfail _

/-- The value that was accepted. -/
theorem judged_ok {α : Type} {x : Except Mismatch α} {text left : List UInt8} {a : α}
    (h : judged x text = .ok a left) : x = .ok a ∧ left = text := by
  cases x with
  | ok b =>
      cases h
      exact ⟨rfl, rfl⟩
  | error m => cases h

/-- The text of a number, without the space in front of it. -/
theorem numeric_ok {α : Type} {wanted : String} {accept : Json → Except Mismatch α}
    {text left : List UInt8} {a : α} (h : numeric wanted accept text = .ok a left) :
    ∃ j, accept j = .ok a ∧
      ((∃ more, text.dropWhile isSpace = 0x2D :: more ∧ Reader.number true more = .ok j left) ∨
        Reader.number false (text.dropWhile isSpace) = .ok j left) := by
  obtain ⟨b, start, hstart, h⟩ := exists_of_bind_ok h
  obtain ⟨more, hmore, rfl⟩ :
      ∃ more, text.dropWhile isSpace = b :: more ∧ start = b :: more := by
    cases htext : text.dropWhile isSpace with
    | nil => simp [valueStart, peekToken, skipSpace, peek, failNext, bind, EStateM.bind, htext]
        at hstart
    | cons c more =>
        simp [valueStart, peekToken, skipSpace, peek, pure, EStateM.pure, bind, EStateM.bind,
          htext] at hstart
        obtain ⟨rfl, rfl⟩ := hstart
        exact ⟨more, rfl, rfl⟩
  rw [hmore]
  split at h
  · rename_i hminus
    obtain ⟨j, left', hj, h⟩ := exists_of_bind_ok (r := Reader.number true) h
    obtain ⟨haccept, rfl⟩ := judged_ok h
    exact ⟨j, haccept, .inl ⟨more, by rw [eq_of_beq hminus], hj⟩⟩
  split at h
  · obtain ⟨j, left', hj, h⟩ := exists_of_bind_ok h
    obtain ⟨haccept, rfl⟩ := judged_ok h
    exact ⟨j, haccept, .inr hj⟩
  · exact absurd h (complains_refuse wanted _ _ _)

/-- Every character stands above the space. -/
def Spaceless (cs : List Char) : Prop := ∀ c ∈ cs, 0x20 < c.toNat

theorem Spaceless.append {front back : List Char} (hfront : Spaceless front)
    (hback : Spaceless back) : Spaceless (front ++ back) := by
  intro c hc
  rcases List.mem_append.mp hc with hc | hc
  · exact hfront c hc
  · exact hback c hc

theorem Spaceless.cons {c : Char} {cs : List Char} (hc : 0x20 < c.toNat) (hcs : Spaceless cs) :
    Spaceless (c :: cs) :=
  List.forall_mem_cons.mpr ⟨hc, hcs⟩

theorem Spaceless.sublist {cs ds : List Char} (h : Spaceless ds) (hsub : cs ⊆ ds) : Spaceless cs :=
  fun c hc => h c (hsub hc)

theorem spaceless_nil : Spaceless [] := fun _ hc => nomatch hc

theorem spaceless_of_all {cs : List Char} (h : cs.all (fun c => decide (0x20 < c.toNat)) = true) :
    Spaceless cs :=
  fun c hc => of_decide_eq_true (List.all_eq_true.mp h c hc)

theorem spaceless_digits (n : Nat) : Spaceless (Decimal.digits n) := by
  intro c hc
  obtain ⟨d, hd, rfl⟩ := Decimal.mem_digits hc
  have hall : ∀ i : Fin 10, 0x20 < (Decimal.digitChar i).toNat := by decide
  exact hall ⟨d, hd⟩

theorem spaceless_ofInt (n : Int) : Spaceless (Decimal.ofInt n) := by
  unfold Decimal.ofInt
  split
  · exact .cons (by decide) (spaceless_digits _)
  · exact spaceless_digits _

section Layouts

variable (layout : Decimal.Layout) {ds : List Char} (exponent : Int)

theorem spaceless_plainText (h : Spaceless ds) : Spaceless (layout.plainText ds exponent) := by
  intro c hc
  rcases Decimal.Layout.mem_plainText hc with hc | rfl | rfl
  · exact h c hc
  · decide
  · decide

theorem spaceless_exponentText (h : Spaceless ds) :
    Spaceless (layout.exponentText ds exponent) := by
  have hfront : Spaceless (ds.take 1) := h.sublist (List.take_subset 1 ds)
  have hback : Spaceless (ds.drop 1) := h.sublist (List.drop_subset 1 ds)
  unfold Decimal.Layout.exponentText
  refine ((hfront.append ?_).append (.cons (by decide) ?_)).append (spaceless_ofInt _)
  · split
    · exact spaceless_nil
    · exact .cons (by decide) hback
  · split
    · exact .cons (by decide) spaceless_nil
    · exact spaceless_nil

theorem spaceless_write (s : Decimal.Scaled) : Spaceless (layout.write s) := by
  have hplain := spaceless_plainText layout s.exponent (spaceless_digits s.digits)
  have hexponent := spaceless_exponentText layout s.exponent (spaceless_digits s.digits)
  unfold Decimal.Layout.write
  simp only
  split
  · exact hplain
  · split
    · exact hplain
    · exact hexponent

end Layouts

/-- What is written for a number holds no space. -/
theorem spaceless_floatChars (x : Float) : Spaceless (floatChars x) := by
  have hsign : ∀ b : Bool, Spaceless (if b then ['-'] else []) := by
    intro b
    cases b
    · exact spaceless_nil
    · exact .cons (by decide) spaceless_nil
  unfold floatChars
  split
  · unfold Decimal.Layout.chars
    simp only
    split
    · exact spaceless_of_all rfl
    · split
      · exact .append (hsign _) (spaceless_of_all rfl)
      · exact .append (hsign _) (spaceless_write _ _)
  · exact spaceless_of_all rfl

theorem isSpace_of_mem_bytes {cs : List Char} (h : Spaceless cs) {b : UInt8}
    (hb : b ∈ Text.bytes cs) : isSpace b = false := by
  obtain ⟨c, hc, hb⟩ := List.mem_flatMap.mp hb
  have hlarge : 0x20 < b.toNat := by
    have hchar := h c hc
    rcases Text.toNat_of_mem_utf8EncodeChar hb with heq | hge <;> omega
  cases hspace : isSpace b with
  | false => rfl
  | true =>
      simp only [isSpace, Bool.or_eq_true, beq_iff_eq] at hspace
      rcases hspace with ((rfl | rfl) | rfl) | rfl <;> exact absurd hlarge (by decide)

/-- The number is decoded from the text that is written for it.  A number that is not finite never
is, since `null` is written for it. -/
def NumberSurvives (x : Float) : Prop :=
  Shape.number.decode (Text.bytes (floatChars x)) = .ok x

instance (x : Float) : Decidable (NumberSurvives x) :=
  decidable_of_iff ((Shape.number.decode (Text.bytes (floatChars x))).toOption = some x) (by
    unfold NumberSurvives
    cases Shape.number.decode (Text.bytes (floatChars x)) with
    | ok y => simp [Except.toOption]
    | error c => simp [Except.toOption])

example : NumberSurvives 0.999 := by decide +kernel

/-- A text that is decoded is read up to the space behind it. -/
theorem Shape.exists_read_of_decode {s : Shape} {text : List UInt8} {v : s.Value}
    (h : s.decode text = .ok v) :
    ∃ left, s.read greatestDepth text = .ok v left ∧ left.dropWhile isSpace = [] := by
  unfold Shape.decode Reader.run at h
  split at h
  · rename_i a left' hrun
    cases h
    obtain ⟨w, left, hread, hrest⟩ := exists_of_bind_ok hrun
    obtain ⟨_, left'', hfinish, hpure⟩ := exists_of_bind_ok hrest
    cases hpure
    refine ⟨left, hread, ?_⟩
    cases hleft : left.dropWhile isSpace with
    | nil => rfl
    | cons b more =>
        simp [finish, peekToken, skipSpace, peek, failNext, bind, EStateM.bind, hleft] at hfinish
  · cases h

/-- A text that is read up to the space behind it is decoded. -/
theorem Shape.decode_of_read {s : Shape} {text left : List UInt8} {v : s.Value}
    (hread : s.read greatestDepth text = .ok v left) (hleft : left.dropWhile isSpace = []) :
    s.decode text = .ok v := by
  have hpeek : peekToken left = .ok none [] := by
    show EStateM.Result.ok (left.dropWhile isSpace).head? (left.dropWhile isSpace) = _
    rw [hleft]
    rfl
  have hfinish : finish left = .ok () [] := by
    rw [finish, bind_of_ok hpeek]
    rfl
  rw [Shape.decode, Reader.run, bind_of_ok hread, bind_of_ok hfinish]
  rfl

/-- The text of a number that survives is that of a number, and nothing more. -/
theorem NumberSurvives.exists_number {x : Float} (h : NumberSurvives x) :
    ∃ j, asNumber j = .ok x ∧
      ((∃ more, Text.bytes (floatChars x) = 0x2D :: more ∧ Reader.number true more = .ok j []) ∨
        Reader.number false (Text.bytes (floatChars x)) = .ok j []) := by
  have hspaceless : ∀ b ∈ Text.bytes (floatChars x), isSpace b = false :=
    fun b hb => isSpace_of_mem_bytes (spaceless_floatChars x) hb
  have hkeep : ∀ text : List UInt8, (∀ b ∈ text, isSpace b = false) →
      text.dropWhile isSpace = text := by
    intro text htext
    cases text with
    | nil => rfl
    | cons b more => exact dropWhile_isSpace_cons (htext b List.mem_cons_self)
  obtain ⟨left, hread, hspace⟩ := Shape.exists_read_of_decode h
  have hend : left <:+ Text.bytes (floatChars x) → left = [] := by
    intro hsuffix
    rw [← hkeep left fun b hb => hspaceless b (hsuffix.subset hb)]
    exact hspace
  obtain ⟨j, haccept, ⟨more, htext, hnumber⟩ | hnumber⟩ := numeric_ok hread
  · rw [hkeep _ hspaceless] at htext
    have hsuffix := (stops_number true hnumber).1
    rw [hend (htext ▸ hsuffix.trans (List.suffix_cons _ _))] at hnumber
    exact ⟨j, haccept, .inl ⟨more, htext, hnumber⟩⟩
  · rw [hkeep _ hspaceless] at hnumber
    rw [hend (stops_number false hnumber).1] at hnumber
    exact ⟨j, haccept, .inr hnumber⟩

/-- **A number that survives is read back**, whatever follows it. -/
theorem NumberSurvives.readsBack {x : Float} (h : NumberSurvives x) (depth : Nat) :
    Shape.number.ReadsBack depth x := by
  intro rest hrest
  show numeric _ asNumber (Text.bytes (floatChars x) ++ rest) = .ok x rest
  obtain ⟨j, haccept, ⟨more, htext, hnumber⟩ | hnumber⟩ := h.exists_number
  · have hsame := (stops_number true hnumber).2 rest hrest
    rw [htext, List.cons_append]
    exact numeric_minus rfl hsame haccept
  · have hsame := (stops_number false hnumber).2 rest hrest
    obtain ⟨b, more, htext, hb, -⟩ := number_ok hnumber
    have hstart : (Text.bytes (floatChars x) ++ rest).dropWhile isSpace
        = Text.bytes (floatChars x) ++ rest := by
      rw [htext, List.cons_append, dropWhile_isSpace_cons (isSpace_of_isDigit hb)]
    exact numeric_plain hstart hsame haccept

end HealthBoard.Json
