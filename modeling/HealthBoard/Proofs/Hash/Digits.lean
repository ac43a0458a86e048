/-
A hash as text.

A hash is two words of 64 bits, and they are one number of 128.  So many bits are what 32
hexadecimal digits hold, no more and no fewer: the text is read back as the number, whatever zeros
stand in front of it, and two hashes with one text are one hash.
-/
import HealthBoard.Hash.Xxh3
import Mathlib.Algebra.Group.Nat.Defs
import Mathlib.Data.List.Basic

namespace HealthBoard.Xxh3

/-- The hexadecimal digits in lower case, each in the place of its value. -/
def hexAlphabet : List Char := "0123456789abcdef".toList

/-- The number that digits stand for, the greatest first. -/
def hexValue (cs : List Char) : Nat := cs.foldl (fun n c => 16 * n + hexAlphabet.idxOf c) 0

/-- So many hexadecimal digits in lower case, and the number that they stand for. -/
structure IsHexText (count : Nat) (text : String) (n : Nat) : Prop where
  length : text.length = count
  lower : ∀ c ∈ text.toList, c ∈ hexAlphabet
  value : hexValue text.toList = n

/-! ### Digits -/

/-- The digit of a value. -/
theorem hexDigit_spec : ∀ d < 16,
    (if d < 10 then Char.ofNat (48 + d) else Char.ofNat (87 + d)) ∈ hexAlphabet ∧
      hexAlphabet.idxOf (if d < 10 then Char.ofNat (48 + d) else Char.ofNat (87 + d)) = d := by
  decide

theorem length_hexDigits (count n : Nat) : (hexDigits count n).length = count := by
  induction count generalizing n with
  | zero => rfl
  | succ count ih =>
      rw [hexDigits, List.length_append, ih]
      rfl

theorem mem_hexAlphabet_of_mem_hexDigits {count n : Nat} {c : Char} (h : c ∈ hexDigits count n) :
    c ∈ hexAlphabet := by
  induction count generalizing n with
  | zero => cases h
  | succ count ih =>
      rw [hexDigits, List.mem_append] at h
      rcases h with hfront | hlast
      · exact ih hfront
      · rw [List.mem_singleton.mp hlast]
        exact (hexDigit_spec (n % 16) (Nat.mod_lt n (by decide))).1

/-- The digits stand for what is left of the number by their count. -/
theorem hexValue_hexDigits (count n : Nat) : hexValue (hexDigits count n) = n % 16 ^ count := by
  induction count generalizing n with
  | zero =>
      rw [Nat.pow_zero, Nat.mod_one]
      rfl
  | succ count ih =>
      have hlast := (hexDigit_spec (n % 16) (Nat.mod_lt n (by decide))).2
      have hfront : hexValue (hexDigits count (n / 16)) = n / 16 % 16 ^ count := ih (n / 16)
      unfold hexValue at hfront ⊢
      rw [hexDigits, List.foldl_append, hfront, Nat.pow_succ', Nat.mod_mul]
      show 16 * (n / 16 % 16 ^ count) + hexAlphabet.idxOf _ = n % 16 + 16 * (n / 16 % 16 ^ count)
      rw [hlast]
      omega

/-! ### Hashes -/

theorem toNat_eq (h : Hash128) : h.toNat = h.high.toNat * 2 ^ 64 + h.low.toNat := rfl

theorem toNat_lt (h : Hash128) : h.toNat < 16 ^ 32 := by
  have hlow := h.low.toNat_lt
  have hhigh := h.high.toNat_lt
  rw [toNat_eq]
  omega

/-- **The text of a hash is its 32 digits.** -/
theorem isHexText_text (h : Hash128) : IsHexText 32 h.text h.toNat where
  length := by rw [Hash128.text, String.length_ofList, length_hexDigits]
  lower := by
    intro c hc
    rw [Hash128.text, String.toList_ofList] at hc
    exact mem_hexAlphabet_of_mem_hexDigits hc
  value := by
    rw [Hash128.text, String.toList_ofList, hexValue_hexDigits, Nat.mod_eq_of_lt (toNat_lt h)]

/-- **Hashes with one text are one hash.** -/
theorem eq_of_text_eq {h h' : Hash128} (htext : h.text = h'.text) : h = h' := by
  have hnat : h.toNat = h'.toNat := by
    rw [← (isHexText_text h).value, htext, (isHexText_text h').value]
  rw [toNat_eq, toNat_eq] at hnat
  have hlow := h.low.toNat_lt
  have hlow' := h'.low.toNat_lt
  have hwords : h.low.toNat = h'.low.toNat ∧ h.high.toNat = h'.high.toNat := by omega
  cases h
  cases h'
  rw [Hash128.mk.injEq, ← UInt64.toNat_inj, ← UInt64.toNat_inj]
  exact hwords

end HealthBoard.Xxh3
