/-
A string is read back from the text that is written for it.

What is written between the quotes is of three kinds: a backslash and a letter, a backslash and
four hexadecimal digits, and a character as it is.  The machine that reads strings goes back to
where it stands between characters after each of them (`stringBytes_escapeChar`), and has then taken
the bytes of the character; a quote that ends the string is never inside, and never missed.  The
bytes taken are those of the whole text, so they are text again.
-/
import HealthBoard.Json.Wire
import HealthBoard.Proofs.Text.Utf8

namespace HealthBoard

/-! ### Texts and their bytes -/

private theorem toList_loop_eq (bs : ByteArray) (i : Nat) (taken : List UInt8) :
    ByteArray.toList.loop bs i taken = taken.reverse ++ bs.data.toList.drop i := by
  fun_induction ByteArray.toList.loop bs i taken with
  | case1 i taken hlt ih =>
    have hlength : i < bs.data.toList.length := by simpa using hlt
    have hget : bs.get! i = bs.data[i]! := by cases bs; rfl
    rw [ih, List.drop_eq_getElem_cons hlength, hget, getElem!_pos bs.data i hlt]
    simp
  | case2 i taken hlt =>
    rw [List.drop_eq_nil_of_le (by simpa using Nat.le_of_not_lt hlt)]
    simp

theorem toByteArray_eq (s : String) : s.toByteArray = (Text.bytes s.toList).toByteArray := by
  rw [← String.utf8Encode_toList]
  rfl

/-- The bytes of a text are those of its characters. -/
theorem bytesOf_eq (s : String) : bytesOf s = Text.bytes s.toList := by
  rw [bytesOf, String.toUTF8_eq_toByteArray, ByteArray.toList, toList_loop_eq, toByteArray_eq,
    List.toList_data_toByteArray]
  rfl

/-- The bytes of a text are text. -/
theorem fromUTF8?_bytes (s : String) :
    String.fromUTF8? ⟨(Text.bytes s.toList).toArray⟩ = some s := by
  have hbytes : (⟨(Text.bytes s.toList).toArray⟩ : ByteArray) = s.toByteArray := by
    rw [toByteArray_eq]
    exact ByteArray.ext (by rw [← Array.toList_inj, List.toList_data_toByteArray])
  rw [hbytes, String.fromUTF8?, dif_pos s.isValidUTF8]
  rfl

/-- Bytes are text if they are the bytes of one. -/
theorem fromUTF8?_eq_some_iff {bs : List UInt8} {s : String} :
    String.fromUTF8? ⟨bs.toArray⟩ = some s ↔ bs = Text.bytes s.toList := by
  refine ⟨fun h => ?_, fun h => h ▸ fromUTF8?_bytes s⟩
  unfold String.fromUTF8? at h
  split at h
  · have hbytes : s.toByteArray = ⟨bs.toArray⟩ := by
      rw [← Option.some.inj h]
      rfl
    rw [toByteArray_eq] at hbytes
    rw [← List.toList_data_toByteArray (l := Text.bytes s.toList), hbytes]
  · cases h

namespace Json.Reader

/-! ### Single bytes -/

variable {taken rest : List UInt8}

/-- A byte that means nothing inside a string stands for itself. -/
theorem stringBytes_plain {b : UInt8} (hquote : b ≠ 0x22) (hslash : b ≠ 0x5C)
    (hcontrol : ¬ b < 0x20) :
    stringBytes taken .plain (b :: rest) = stringBytes (b :: taken) .plain rest := by
  have hclose : closesString .plain b = false := by simpa [closesString] using hquote
  have hstep : stringStep .plain b = .ok (.plain, [b]) := by
    rw [stringStep, if_neg (by simpa using hslash), if_neg hcontrol]
  rw [stringBytes, hclose, hstep]
  rfl

theorem stringBytes_plains {bs : List UInt8}
    (h : ∀ b ∈ bs, b ≠ 0x22 ∧ b ≠ 0x5C ∧ ¬ b < 0x20) :
    stringBytes taken .plain (bs ++ rest) = stringBytes (bs.reverse ++ taken) .plain rest := by
  induction bs generalizing taken with
  | nil => rfl
  | cons b bs ih =>
    obtain ⟨hquote, hslash, hcontrol⟩ := h b List.mem_cons_self
    rw [List.cons_append, stringBytes_plain hquote hslash hcontrol,
      ih fun b hb => h b (List.mem_cons_of_mem _ hb), List.reverse_cons, List.append_assoc]
    rfl

/-- A backslash and a letter. -/
theorem stringBytes_simple {letter b : UInt8} (hu : letter ≠ 0x75)
    (h : simpleEscape? letter = some b) :
    stringBytes taken .plain (0x5C :: letter :: rest) = stringBytes (b :: taken) .plain rest := by
  have hstep : stringStep .escaped letter = .ok (.plain, [b]) := by
    rw [stringStep, if_neg (by simpa using hu), h]
  rw [stringBytes]
  show stringBytes taken .escaped (letter :: rest) = _
  rw [stringBytes, hstep]
  rfl

/-- A backslash and the number of a character that is no surrogate. -/
theorem stringBytes_hex {a b c d : UInt8} {n : Nat} (h : hexNumber? [a, b, c, d] = some n)
    (hplain : n < 0xD800) :
    stringBytes taken .plain (0x5C :: 0x75 :: a :: b :: c :: d :: rest)
      = stringBytes ((String.utf8EncodeChar (Char.ofNat n)).reverse ++ taken) .plain rest := by
  have hvalue : hexStep n none = .ok (.plain, String.utf8EncodeChar (Char.ofNat n)) := by
    rw [hexStep, if_neg (by omega), if_neg (by omega)]
  have hstep : stringStep (.hex [a, b, c] none) d
      = .ok (.plain, String.utf8EncodeChar (Char.ofNat n)) := by
    rw [stringStep]
    simp [h, hvalue]
  show stringBytes taken (.hex [a, b, c] none) (d :: rest) = _
  rw [stringBytes, hstep]
  rfl

/-! ### Characters -/

/-- A character from the first two rows is written by its number. -/
theorem hexNumber?_control {n : Nat} (h : n < 0x20) :
    ∃ high low, String.utf8EncodeChar (hexDigit (n / 16)) = [high] ∧
      String.utf8EncodeChar (hexDigit (n % 16)) = [low] ∧
      hexNumber? [0x30, 0x30, high, low] = some n := by
  have hdigit : ∀ i : Fin 16, String.utf8EncodeChar (hexDigit i)
      = [UInt8.ofNat (if i.val < 10 then 48 + i else 87 + i)] := by decide
  have hnumber : ∀ i : Fin 0x20, hexNumber? [0x30, 0x30,
      UInt8.ofNat (if i.val / 16 < 10 then 48 + i.val / 16 else 87 + i.val / 16),
      UInt8.ofNat (if i.val % 16 < 10 then 48 + i.val % 16 else 87 + i.val % 16)] = some i.val := by
    decide
  exact ⟨_, _, hdigit ⟨n / 16, by omega⟩, hdigit ⟨n % 16, by omega⟩, hnumber ⟨n, h⟩⟩

/-- The bytes of a character that is not escaped mean nothing inside a string. -/
theorem plain_utf8EncodeChar {c : Char} (hquote : c ≠ '"') (hslash : c ≠ '\\')
    (hcontrol : ¬ c.toNat < 0x20) :
    ∀ b ∈ String.utf8EncodeChar c, b ≠ 0x22 ∧ b ≠ 0x5C ∧ ¬ b < 0x20 := by
  have hne : ∀ sign : Char, c ≠ sign → c.toNat ≠ sign.toNat := fun sign hsign heq =>
    hsign (Char.ext (UInt32.toNat_inj.mp heq))
  have hquote : c.toNat ≠ 0x22 := hne '"' hquote
  have hslash : c.toNat ≠ 0x5C := hne '\\' hslash
  intro b hb
  rw [Ne, Ne, ← UInt8.toNat_inj, ← UInt8.toNat_inj, UInt8.lt_iff_toNat_lt]
  show b.toNat ≠ 0x22 ∧ b.toNat ≠ 0x5C ∧ ¬ b.toNat < 0x20
  rcases Text.toNat_of_mem_utf8EncodeChar hb with heq | hge
  · rw [heq]
    exact ⟨hquote, hslash, hcontrol⟩
  · omega

/-- **What is written for a character stands for the character.** -/
theorem stringBytes_escapeChar (c : Char) :
    stringBytes taken .plain (Text.bytes (escapeChar c) ++ rest)
      = stringBytes ((String.utf8EncodeChar c).reverse ++ taken) .plain rest := by
  have hback : Char.ofNat c.toNat = c := Char.ofNat_toNat c
  unfold escapeChar
  by_cases hquote : c = '"'
  · subst hquote
    exact stringBytes_simple (by decide) rfl
  by_cases hslash : c = '\\'
  · subst hslash
    exact stringBytes_simple (by decide) rfl
  rw [if_neg (by simpa using hquote), if_neg (by simpa using hslash)]
  by_cases hcontrol : c.toNat < 0x20
  · rw [if_pos hcontrol]
    have hletter : ∀ letter b, letter ≠ 0x75 → simpleEscape? letter = some b → c.toNat = b.toNat →
        stringBytes taken .plain (0x5C :: letter :: rest)
          = stringBytes ((String.utf8EncodeChar c).reverse ++ taken) .plain rest := by
      intro letter b hu hescape heq
      rw [stringBytes_simple hu hescape, Text.utf8EncodeChar_ascii (by omega), heq,
        UInt8.ofNat_toNat]
      rfl
    split
    next heq => exact hletter 0x62 0x08 (by decide) rfl heq
    next heq => exact hletter 0x74 0x09 (by decide) rfl heq
    next heq => exact hletter 0x6E 0x0A (by decide) rfl heq
    next heq => exact hletter 0x66 0x0C (by decide) rfl heq
    next heq => exact hletter 0x72 0x0D (by decide) rfl heq
    next =>
      obtain ⟨high, low, hhigh, hlow, hnumber⟩ := hexNumber?_control hcontrol
      have hbytes : Text.bytes ['\\', 'u', '0', '0', hexDigit (c.toNat / 16),
          hexDigit (c.toNat % 16)] = [0x5C, 0x75, 0x30, 0x30, high, low] := by
        simp only [Text.bytes_cons, Text.bytes_nil, hhigh, hlow]
        rfl
      rw [hbytes]
      show stringBytes taken .plain (0x5C :: 0x75 :: 0x30 :: 0x30 :: high :: low :: rest) = _
      rw [stringBytes_hex hnumber (by omega), hback]
  · rw [if_neg hcontrol, Text.bytes_cons, Text.bytes_nil, List.append_nil]
    exact stringBytes_plains (plain_utf8EncodeChar hquote hslash hcontrol)

theorem stringBytes_escaped (s : List Char) :
    stringBytes taken .plain (Text.bytes (s.flatMap escapeChar) ++ rest)
      = stringBytes ((Text.bytes s).reverse ++ taken) .plain rest := by
  induction s generalizing taken with
  | nil => rfl
  | cons c s ih =>
    rw [List.flatMap_cons, Text.bytes_append, List.append_assoc, stringBytes_escapeChar, ih,
      Text.bytes_cons, List.reverse_append, List.append_assoc]

/-- **A string is read back from what is written for it**, whatever follows. -/
theorem string_stringChars (s : String) :
    string (Text.bytes (s.toList.flatMap escapeChar ++ ['"']) ++ rest) = .ok s rest := by
  have hbytes : stringBytes [] .plain (Text.bytes (s.toList.flatMap escapeChar ++ ['"']) ++ rest)
      = .ok (Text.bytes s.toList) rest := by
    rw [Text.bytes_append, List.append_assoc, stringBytes_escaped, List.append_nil]
    show EStateM.Result.ok (Text.bytes s.toList).reverse.reverse rest = _
    rw [List.reverse_reverse]
  unfold string
  simp only [bind, EStateM.bind, hbytes, fromUTF8?_bytes]
  rfl

end Json.Reader
end HealthBoard
