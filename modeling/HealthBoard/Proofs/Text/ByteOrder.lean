/-
Texts in the order of their bytes.

Names are compared character by character, and elsewhere byte by byte.  That is the same order,
because of how characters are written: a longer code begins with a greater byte than a shorter one,
and of two codes of one length the bytes are the digits of the character's number, six bits each and
the most significant first.  Nothing is asked of the bytes behind the two characters, since the
order is decided within them.
-/
import HealthBoard.Proofs.Text.Utf8

namespace HealthBoard.Text

/-- One text comes before another by their bytes. -/
def Before (s t : String) : Prop := bytes s.toList < bytes t.toList

theorem byte_lt_byte_iff {m n : Nat} (hm : m < 256) (hn : n < 256) :
    UInt8.ofNat m < UInt8.ofNat n ↔ m < n := by
  rw [UInt8.lt_iff_toNat_lt, toNat_byte hm, toNat_byte hn]

/-! ### Characters

Numbers below a limit are written in an ascending code, if of two of them the lesser has the lesser
bytes whatever follows.  A code of several bytes ends in a digit, and before it stands a code of the
number without that digit, so ascending codes are made from shorter ones.
-/

def Ascending (limit : Nat) (code : Nat → List UInt8) : Prop :=
  ∀ m n, m < n → n < limit → ∀ front back, code m ++ front < code n ++ back

/-- A byte that grows with the number decides at once. -/
theorem ascending_single {limit offset : Nat} (h : limit + offset ≤ 256) :
    Ascending limit fun m => [UInt8.ofNat (m + offset)] := by
  intro m n hmn hn front back
  refine List.cons_lt_cons_iff.mpr (.inl ?_)
  rw [byte_lt_byte_iff (by omega) (by omega)]
  omega

theorem Ascending.digit {limit : Nat} {code : Nat → List UInt8} (h : Ascending limit code) :
    Ascending (limit * 64) fun m => code (m / 64) ++ [UInt8.ofNat (m % 64 + 128)] := by
  intro m n hmn hn front back
  rw [List.append_assoc, List.append_assoc]
  have hdigits : m / 64 < n / 64 ∨ m / 64 = n / 64 ∧ m % 64 < n % 64 := by omega
  rcases hdigits with hless | ⟨hsame, hlast⟩
  · exact h _ _ hless (by omega) _ _
  · rw [hsame]
    refine List.append_left_lt (List.cons_lt_cons_iff.mpr (.inl ?_))
    rw [byte_lt_byte_iff (by omega) (by omega)]
    omega

/-- Codes that are the same below the limit. -/
theorem Ascending.congr {limit : Nat} {code other : Nat → List UInt8} (h : Ascending limit code)
    (hsame : ∀ m < limit, other m = code m) : Ascending limit other := by
  intro m n hmn hn front back
  rw [hsame m (Nat.lt_trans hmn hn), hsame n hn]
  exact h m n hmn hn front back

theorem ascending_two :
    Ascending 0x800 fun m => [UInt8.ofNat (m / 64 % 32 + 192), UInt8.ofNat (m % 64 + 128)] := by
  refine (ascending_single (show 32 + 192 ≤ 256 by decide)).digit.congr fun m hm => ?_
  rw [Nat.mod_eq_of_lt (by omega)]
  rfl

theorem ascending_three :
    Ascending 0x10000 fun m =>
      [UInt8.ofNat (m / 4096 % 16 + 224), UInt8.ofNat (m / 64 % 64 + 128),
        UInt8.ofNat (m % 64 + 128)] := by
  refine (ascending_single (show 16 + 224 ≤ 256 by decide)).digit.digit.congr
    fun m hm => ?_
  rw [Nat.mod_eq_of_lt (by omega), ← Nat.div_div_eq_div_mul m 64 64]
  rfl

theorem ascending_four :
    Ascending 0x200000 fun m =>
      [UInt8.ofNat (m / 262144 % 8 + 240), UInt8.ofNat (m / 4096 % 64 + 128),
        UInt8.ofNat (m / 64 % 64 + 128), UInt8.ofNat (m % 64 + 128)] := by
  refine (ascending_single (show 8 + 240 ≤ 256 by decide)).digit.digit.digit.congr
    fun m hm => ?_
  rw [Nat.mod_eq_of_lt (by omega), ← Nat.div_div_eq_div_mul m 64 64,
    ← Nat.div_div_eq_div_mul m 4096 64, ← Nat.div_div_eq_div_mul m 64 64]
  rfl

/-- **A lesser character has lesser bytes, whatever follows.** -/
theorem utf8EncodeChar_lt {c d : Char} (h : c.toNat < d.toNat) (front back : List UInt8) :
    String.utf8EncodeChar c ++ front < String.utf8EncodeChar d ++ back := by
  have hc := toNat_char c
  have hd := toNat_char d
  -- The first byte decides between codes of different lengths.
  have hfirst : ∀ {a b : Nat} {more rest : List UInt8}, a < b → b < 256 →
      UInt8.ofNat a :: more ++ front < UInt8.ofNat b :: rest ++ back := by
    intro a b more rest hab hb
    exact List.cons_lt_cons_iff.mpr (.inl ((byte_lt_byte_iff (by omega) hb).mpr hab))
  rw [utf8EncodeChar_eq, utf8EncodeChar_eq]
  split_ifs
  -- The greater character is never the one with the shorter code.
  all_goals try omega
  · exact hfirst h (by omega)
  · exact hfirst (by omega) (by omega)
  · exact hfirst (by omega) (by omega)
  · exact hfirst (by omega) (by omega)
  · exact ascending_two _ _ h (by omega) front back
  · exact hfirst (by omega) (by omega)
  · exact hfirst (by omega) (by omega)
  · exact ascending_three _ _ h (by omega) front back
  · exact hfirst (by omega) (by omega)
  · exact ascending_four _ _ h (by omega) front back

theorem utf8EncodeChar_ne_nil (c : Char) : String.utf8EncodeChar c ≠ [] := by
  rw [utf8EncodeChar_eq]
  split_ifs <;> exact List.cons_ne_nil _ _

/-! ### Texts -/

theorem bytes_lt_bytes {s t : List Char} (h : s < t) : bytes s < bytes t := by
  induction h with
  | nil =>
      rename_i c rest
      obtain ⟨b, more, hbytes⟩ := List.exists_cons_of_ne_nil (utf8EncodeChar_ne_nil c)
      rw [bytes_cons, hbytes]
      exact List.nil_lt_cons b _
  | cons _ ih =>
      rw [bytes_cons, bytes_cons]
      exact List.append_left_lt ih
  | rel hlt =>
      rw [bytes_cons, bytes_cons]
      exact utf8EncodeChar_lt hlt _ _

/-- **The order of texts is the order of their bytes.** -/
theorem before_iff_lt {s t : String} : Before s t ↔ s < t := by
  refine ⟨fun h => Decidable.byContradiction fun hnot => ?_, bytes_lt_bytes⟩
  by_cases hback : t < s
  · exact List.lt_asymm h (bytes_lt_bytes hback)
  · have hsame : s = t := String.le_antisymm hback hnot
    rw [hsame] at h
    exact List.lt_irrefl _ h

end HealthBoard.Text
