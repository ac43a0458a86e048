/-
Text is read back from its bytes.

A character has one to four bytes: the first says how many follow, and each of the others carries
six more bits.  The machine that reads them wants every byte between two bounds, which shut out what
could have been written shorter and what is no character; `decodeFrom_char` goes through the four
lengths and says that the bytes of a character stay within the bounds and give the character.  What
is written as text is therefore never taken for anything that has to be replaced.
-/
import HealthBoard.Text.Utf8
import Mathlib.Tactic.SplitIfs

namespace HealthBoard.Text

/-! ### One byte -/

theorem toNat_byte {n : Nat} (h : n < 256) : (UInt8.ofNat n).toNat = n := by
  rw [UInt8.toNat_ofNat', Nat.mod_eq_of_lt h]

/-- A byte of which the machine waits for no more ends the character. -/
theorem decodeFrom_last {least greatest : UInt8} {code n : Nat} {rest : List UInt8} (h : n < 256)
    (hleast : least.toNat ≤ n) (hgreatest : n ≤ greatest.toNat) :
    decodeFrom (some ⟨1, least, greatest, code⟩) (UInt8.ofNat n :: rest)
      = Char.ofNat (code * 64 + (n - 0x80)) :: decodeFrom none rest := by
  have hbounds : least ≤ UInt8.ofNat n ∧ UInt8.ofNat n ≤ greatest := by
    rw [UInt8.le_iff_toNat_le, UInt8.le_iff_toNat_le, toNat_byte h]
    exact ⟨hleast, hgreatest⟩
  rw [decodeFrom, utf8Step, if_pos hbounds, toNat_byte h]
  rfl

/-- Any other adds its six bits to the code. -/
theorem decodeFrom_more {needed : Nat} {least greatest : UInt8} {code n : Nat}
    {rest : List UInt8} (h : n < 256) (hleast : least.toNat ≤ n) (hgreatest : n ≤ greatest.toNat) :
    decodeFrom (some ⟨needed + 2, least, greatest, code⟩) (UInt8.ofNat n :: rest)
      = decodeFrom (some ⟨needed + 1, 0x80, 0xBF, code * 64 + (n - 0x80)⟩) rest := by
  have hbounds : least ≤ UInt8.ofNat n ∧ UInt8.ofNat n ≤ greatest := by
    rw [UInt8.le_iff_toNat_le, UInt8.le_iff_toNat_le, toNat_byte h]
    exact ⟨hleast, hgreatest⟩
  rw [decodeFrom, utf8Step, if_pos hbounds, toNat_byte h]
  rfl

/-! ### First bytes -/

theorem decodeFrom_first_of_one {n : Nat} {rest : List UInt8} (h : n < 0x80) :
    decodeFrom none (UInt8.ofNat n :: rest) = Char.ofNat n :: decodeFrom none rest := by
  rw [decodeFrom, utf8Step, firstByte, toNat_byte (by omega), if_pos h]
  rfl

theorem decodeFrom_first_of_two {n : Nat} {rest : List UInt8} (h : 0xC2 ≤ n ∧ n ≤ 0xDF) :
    decodeFrom none (UInt8.ofNat n :: rest)
      = decodeFrom (some ⟨1, 0x80, 0xBF, n - 0xC0⟩) rest := by
  rw [decodeFrom, utf8Step, firstByte, toNat_byte (by omega), if_neg (by omega), if_pos h]
  rfl

theorem decodeFrom_first_of_three {n : Nat} {rest : List UInt8} (h : 0xE0 ≤ n ∧ n ≤ 0xEF) :
    decodeFrom none (UInt8.ofNat n :: rest)
      = decodeFrom (some ⟨2, if n == 0xE0 then 0xA0 else 0x80, if n == 0xED then 0x9F else 0xBF,
          n - 0xE0⟩) rest := by
  rw [decodeFrom, utf8Step, firstByte, toNat_byte (by omega), if_neg (by omega),
    if_neg (by omega), if_pos h]
  rfl

theorem decodeFrom_first_of_four {n : Nat} {rest : List UInt8} (h : 0xF0 ≤ n ∧ n ≤ 0xF4) :
    decodeFrom none (UInt8.ofNat n :: rest)
      = decodeFrom (some ⟨3, if n == 0xF0 then 0x90 else 0x80, if n == 0xF4 then 0x8F else 0xBF,
          n - 0xF0⟩) rest := by
  rw [decodeFrom, utf8Step, firstByte, toNat_byte (by omega), if_neg (by omega),
    if_neg (by omega), if_neg (by omega), if_pos h]
  rfl

/-! ### Characters -/

/-- A character is no surrogate, and not past the last plane. -/
theorem toNat_char (c : Char) : c.toNat < 0xD800 ∨ 0xDFFF < c.toNat ∧ c.toNat < 0x110000 :=
  c.valid

/-- A tail byte of which nothing special is wanted. -/
theorem tail_bounds (k : Nat) :
    (0x80 : UInt8).toNat ≤ k % 64 + 128 ∧ k % 64 + 128 ≤ (0xBF : UInt8).toNat := by
  show 128 ≤ k % 64 + 128 ∧ k % 64 + 128 ≤ 191
  omega

variable {n : Nat} {rest : List UInt8}

theorem decodeFrom_two_bytes (h : 0x80 ≤ n ∧ n < 0x800) :
    decodeFrom none (UInt8.ofNat (n / 64 % 32 + 192) :: UInt8.ofNat (n % 64 + 128) :: rest)
      = Char.ofNat n :: decodeFrom none rest := by
  have hcode : (n / 64 % 32 + 192 - 0xC0) * 64 + (n % 64 + 128 - 0x80) = n := by omega
  rw [decodeFrom_first_of_two (by omega),
    decodeFrom_last (by omega) (tail_bounds n).1 (tail_bounds n).2, hcode]

/-- The second of three bytes: it must not be one of a shorter code, and none of a surrogate. -/
theorem decodeFrom_three_bytes (h : 0x800 ≤ n ∧ n < 0x10000) (hvalid : n < 0xD800 ∨ 0xDFFF < n) :
    decodeFrom none (UInt8.ofNat (n / 4096 % 16 + 224) :: UInt8.ofNat (n / 64 % 64 + 128) ::
        UInt8.ofNat (n % 64 + 128) :: rest) = Char.ofNat n :: decodeFrom none rest := by
  have hcode : ((n / 4096 % 16 + 224 - 0xE0) * 64 + (n / 64 % 64 + 128 - 0x80)) * 64
      + (n % 64 + 128 - 0x80) = n := by omega
  have hleast : (if n / 4096 % 16 + 224 == 0xE0 then 0xA0 else 0x80 : UInt8).toNat
      ≤ n / 64 % 64 + 128 := by
    by_cases hfirst : n / 4096 % 16 + 224 = 0xE0
    · rw [if_pos (beq_iff_eq.mpr hfirst)]
      show 0xA0 ≤ _
      omega
    · rw [if_neg (fun hc => hfirst (beq_iff_eq.mp hc))]
      exact (tail_bounds _).1
  have hgreatest : n / 64 % 64 + 128
      ≤ (if n / 4096 % 16 + 224 == 0xED then 0x9F else 0xBF : UInt8).toNat := by
    by_cases hfirst : n / 4096 % 16 + 224 = 0xED
    · rw [if_pos (beq_iff_eq.mpr hfirst)]
      show _ ≤ 0x9F
      omega
    · rw [if_neg (fun hc => hfirst (beq_iff_eq.mp hc))]
      exact (tail_bounds _).2
  rw [decodeFrom_first_of_three (by omega), decodeFrom_more (by omega) hleast hgreatest,
    decodeFrom_last (by omega) (tail_bounds n).1 (tail_bounds n).2, hcode]

/-- The second of four bytes: it must not be one of a shorter code, and none past the last plane. -/
theorem decodeFrom_four_bytes (h : 0x10000 ≤ n ∧ n < 0x110000) :
    decodeFrom none (UInt8.ofNat (n / 262144 % 8 + 240) :: UInt8.ofNat (n / 4096 % 64 + 128) ::
        UInt8.ofNat (n / 64 % 64 + 128) :: UInt8.ofNat (n % 64 + 128) :: rest)
      = Char.ofNat n :: decodeFrom none rest := by
  have hcode : (((n / 262144 % 8 + 240 - 0xF0) * 64 + (n / 4096 % 64 + 128 - 0x80)) * 64
      + (n / 64 % 64 + 128 - 0x80)) * 64 + (n % 64 + 128 - 0x80) = n := by omega
  have hleast : (if n / 262144 % 8 + 240 == 0xF0 then 0x90 else 0x80 : UInt8).toNat
      ≤ n / 4096 % 64 + 128 := by
    by_cases hfirst : n / 262144 % 8 + 240 = 0xF0
    · rw [if_pos (beq_iff_eq.mpr hfirst)]
      show 0x90 ≤ _
      omega
    · rw [if_neg (fun hc => hfirst (beq_iff_eq.mp hc))]
      exact (tail_bounds _).1
  have hgreatest : n / 4096 % 64 + 128
      ≤ (if n / 262144 % 8 + 240 == 0xF4 then 0x8F else 0xBF : UInt8).toNat := by
    by_cases hfirst : n / 262144 % 8 + 240 = 0xF4
    · rw [if_pos (beq_iff_eq.mpr hfirst)]
      show _ ≤ 0x8F
      omega
    · rw [if_neg (fun hc => hfirst (beq_iff_eq.mp hc))]
      exact (tail_bounds _).2
  rw [decodeFrom_first_of_four (by omega), decodeFrom_more (by omega) hleast hgreatest,
    decodeFrom_more (by omega) (tail_bounds _).1 (tail_bounds _).2,
    decodeFrom_last (by omega) (tail_bounds n).1 (tail_bounds n).2, hcode]

/-! ### The bytes of a character -/

/-- The bytes by the length of the code, one case for each. -/
theorem utf8EncodeChar_eq (c : Char) : String.utf8EncodeChar c =
    if c.toNat ≤ 127 then [UInt8.ofNat c.toNat]
    else if c.toNat ≤ 2047 then
      [UInt8.ofNat (c.toNat / 64 % 32 + 192), UInt8.ofNat (c.toNat % 64 + 128)]
    else if c.toNat ≤ 65535 then
      [UInt8.ofNat (c.toNat / 4096 % 16 + 224), UInt8.ofNat (c.toNat / 64 % 64 + 128),
        UInt8.ofNat (c.toNat % 64 + 128)]
    else
      [UInt8.ofNat (c.toNat / 262144 % 8 + 240), UInt8.ofNat (c.toNat / 4096 % 64 + 128),
        UInt8.ofNat (c.toNat / 64 % 64 + 128), UInt8.ofNat (c.toNat % 64 + 128)] := rfl

theorem utf8EncodeChar_ascii {c : Char} (h : c.toNat < 0x80) :
    String.utf8EncodeChar c = [UInt8.ofNat c.toNat] := by
  rw [utf8EncodeChar_eq, if_pos (by omega)]

/-- Below the bytes that make up longer characters there are only whole characters. -/
theorem toNat_of_mem_utf8EncodeChar {c : Char} {b : UInt8} (h : b ∈ String.utf8EncodeChar c) :
    b.toNat = c.toNat ∨ 0x80 ≤ b.toNat := by
  have hvalid := toNat_char c
  rw [utf8EncodeChar_eq] at h
  split_ifs at h
  · rw [List.mem_singleton.mp h]
    exact .inl (toNat_byte (by omega))
  all_goals
    simp only [List.mem_cons, List.not_mem_nil, or_false] at h
    refine .inr ?_
    rcases h with rfl | rfl | rfl | rfl <;> rw [toNat_byte (by omega)] <;> omega

theorem toNat_ofNat {n : Nat} (h : n < 0x80) : (Char.ofNat n).toNat = n := by
  rw [Char.ofNat, dif_pos (.inl (by omega))]
  rfl

/-- The character of a small number has that number for its byte. -/
theorem utf8EncodeChar_ofNat {n : Nat} (h : n < 0x80) :
    String.utf8EncodeChar (Char.ofNat n) = [UInt8.ofNat n] := by
  rw [utf8EncodeChar_ascii (by rwa [toNat_ofNat h]), toNat_ofNat h]

/-- **The bytes of a character are read as that character, whatever follows.** -/
theorem decodeFrom_char (c : Char) (rest : List UInt8) :
    decodeFrom none (String.utf8EncodeChar c ++ rest) = c :: decodeFrom none rest := by
  have hvalid := toNat_char c
  have hback : Char.ofNat c.toNat = c := Char.ofNat_toNat c
  rw [utf8EncodeChar_eq]
  by_cases hone : c.toNat ≤ 127
  · rw [if_pos hone]
    simp only [List.cons_append, List.nil_append]
    rw [decodeFrom_first_of_one (by omega), hback]
  by_cases htwo : c.toNat ≤ 2047
  · rw [if_neg hone, if_pos htwo]
    simp only [List.cons_append, List.nil_append]
    rw [decodeFrom_two_bytes (by omega), hback]
  by_cases hthree : c.toNat ≤ 65535
  · rw [if_neg hone, if_neg htwo, if_pos hthree]
    simp only [List.cons_append, List.nil_append]
    rw [decodeFrom_three_bytes (by omega) (by omega), hback]
  · rw [if_neg hone, if_neg htwo, if_neg hthree]
    simp only [List.cons_append, List.nil_append]
    rw [decodeFrom_four_bytes (by omega), hback]

/-! ### Texts -/

/-- The bytes of characters. -/
def bytes (s : List Char) : List UInt8 := s.flatMap String.utf8EncodeChar

@[simp] theorem bytes_nil : bytes [] = [] := rfl

theorem bytes_cons (c : Char) (s : List Char) :
    bytes (c :: s) = String.utf8EncodeChar c ++ bytes s := rfl

@[simp] theorem bytes_append (s t : List Char) : bytes (s ++ t) = bytes s ++ bytes t :=
  List.flatMap_append

/-- **Text is read back from its bytes.** -/
theorem decodeLossy_bytes (s : String) : decodeLossy (bytes s.toList) = s := by
  have h : ∀ cs : List Char, decodeFrom none (bytes cs) = cs := by
    intro cs
    induction cs with
    | nil => rfl
    | cons c rest ih => rw [bytes_cons, decodeFrom_char, ih]
  rw [decodeLossy, h, String.ofList_toList]

end HealthBoard.Text
