/-
Names and values are read back as they were put in.

A byte of a name or a value is written as itself, as a plus sign, or by its number, and none of the
three can be taken for a separator: what is kept is a letter, a digit or one of four signs, and what
is not kept does not appear.  So the ampersands of a query are those between its pairs and the first
equals sign of a pair is the one behind its name, whatever the texts hold.  Reading first turns plus
signs into spaces and then numbers into bytes; a plus sign of the text was written by its number, so
the two do not meet.
-/
import HealthBoard.Proofs.Text.Utf8
import HealthBoard.Url.Form

namespace HealthBoard.Url

/-! ### Hexadecimal digits -/

theorem utf8EncodeChar_upperHex {n : Nat} (h : n < 16) :
    String.utf8EncodeChar (upperHex n) = [UInt8.ofNat (if n < 10 then 48 + n else 55 + n)] := by
  have hall : ∀ i : Fin 16, String.utf8EncodeChar (upperHex i)
      = [UInt8.ofNat (if i.val < 10 then 48 + i else 55 + i)] := by decide
  exact hall ⟨n, h⟩

/-- A digit is read as its value, and is none of the signs that mean something. -/
theorem hexByte?_upperHex {n : Nat} (h : n < 16) :
    ∃ b, String.utf8EncodeChar (upperHex n) = [b] ∧ hexByte? b = some (UInt8.ofNat n) ∧
      b ≠ 0x26 ∧ b ≠ 0x2B ∧ b ≠ 0x3D := by
  have hall : ∀ i : Fin 16, hexByte? (UInt8.ofNat (if i.val < 10 then 48 + i else 55 + i))
        = some (UInt8.ofNat i) ∧
      UInt8.ofNat (if i.val < 10 then 48 + i else 55 + i) ≠ 0x26 ∧
      UInt8.ofNat (if i.val < 10 then 48 + i else 55 + i) ≠ 0x2B ∧
      UInt8.ofNat (if i.val < 10 then 48 + i else 55 + i) ≠ 0x3D := by decide
  exact ⟨_, utf8EncodeChar_upperHex h, hall ⟨n, h⟩⟩

/-- A byte is read back from its number. -/
theorem percentByte_bytes (b : UInt8) :
    ∃ high low, Text.bytes (percentByte b) = [0x25, high, low] ∧
      percentValue? 0x25 high low = some b ∧
      ∀ digit ∈ [high, low], digit ≠ 0x26 ∧ digit ≠ 0x2B ∧ digit ≠ 0x3D := by
  have hsmall : b.toNat < 256 := b.toNat_lt
  obtain ⟨high, hhigh, hvalue, hplain⟩ := hexByte?_upperHex (n := b.toNat / 16) (by omega)
  obtain ⟨low, hlow, hvalue', hplain'⟩ := hexByte?_upperHex (n := b.toNat % 16) (by omega)
  refine ⟨high, low, ?_, ?_, ?_⟩
  · rw [percentByte]
    simp only [Text.bytes_cons, Text.bytes_nil, hhigh, hlow]
    rfl
  · have hsum : UInt8.ofNat (b.toNat / 16) * 16 + UInt8.ofNat (b.toNat % 16) = b := by
      apply UInt8.toNat_inj.mp
      simp
      omega
    simp [percentValue?, hvalue, hvalue', hsum]
  · simp [hplain, hplain']

/-- A byte that is no percent sign stands for itself. -/
theorem percentDecode_cons_of_ne {b : UInt8} (h : b ≠ 0x25) (rest : List UInt8) :
    percentDecode (b :: rest) = b :: percentDecode rest := by
  match rest with
  | [] => rfl
  | [_] => rfl
  | high :: low :: rest =>
    have hnone : percentValue? b high low = none := by simp [percentValue?, h]
    rw [percentDecode, hnone]

/-! ### Bytes of names and values -/

namespace Form

/-- What a byte of a name or a value is written as. -/
def written (b : UInt8) : List UInt8 := Text.bytes (encodeByte b)

/-- The plus sign that a space is written as is a space again. -/
def spaced (b : UInt8) : UInt8 := if b == 0x2B then 0x20 else b

theorem spaced_of_ne {b : UInt8} (h : b ≠ 0x2B) : spaced b = b := by
  rw [spaced, if_neg (by simpa using h)]

theorem ne_of_isKept {b sign : UInt8} (h : isKept b = true) (hsign : isKept sign = false) :
    b ≠ sign := by
  rintro rfl
  rw [h] at hsign
  cases hsign

theorem isKept_lt {b : UInt8} (h : isKept b = true) : b.toNat < 0x80 := by
  simp only [isKept, Bool.or_eq_true, Bool.and_eq_true, decide_eq_true_eq, beq_iff_eq,
    UInt8.le_iff_toNat_le] at h
  obtain ((((((⟨-, h⟩ | ⟨-, h⟩) | ⟨-, h⟩) | rfl) | rfl) | rfl) | rfl) := h
  · exact Nat.lt_of_le_of_lt h (by decide)
  · exact Nat.lt_of_le_of_lt h (by decide)
  · exact Nat.lt_of_le_of_lt h (by decide)
  all_goals decide

/-- A byte is written in one of three ways. -/
theorem written_cases (b : UInt8) :
    (b = 0x20 ∧ written b = [0x2B]) ∨ (isKept b = true ∧ written b = [b]) ∨
      ∃ high low, written b = [0x25, high, low] ∧ percentValue? 0x25 high low = some b ∧
        ∀ digit ∈ [high, low], digit ≠ 0x26 ∧ digit ≠ 0x2B ∧ digit ≠ 0x3D := by
  unfold written encodeByte
  by_cases hspace : b = 0x20
  · subst hspace
    exact .inl ⟨rfl, rfl⟩
  by_cases hkept : isKept b = true
  · refine .inr (.inl ⟨hkept, ?_⟩)
    rw [if_neg (by simpa using hspace), if_pos hkept, Text.bytes_cons,
      Text.utf8EncodeChar_ofNat (isKept_lt hkept), UInt8.ofNat_toNat]
    rfl
  · refine .inr (.inr ?_)
    rw [if_neg (by simpa using hspace), if_neg hkept]
    exact percentByte_bytes b

/-- A byte is read back from what it is written as, whatever follows. -/
theorem percentDecode_written (b : UInt8) (rest : List UInt8) :
    percentDecode ((written b ++ rest).map spaced) = b :: percentDecode (rest.map spaced) := by
  obtain ⟨rfl, hwritten⟩ | ⟨hkept, hwritten⟩ | ⟨high, low, hwritten, hvalue, hplain⟩ :=
    written_cases b
  · rw [hwritten]
    exact percentDecode_cons_of_ne (by decide) _
  · have hplus : spaced b = b := spaced_of_ne (ne_of_isKept hkept rfl)
    rw [hwritten, List.cons_append, List.nil_append, List.map_cons, hplus,
      percentDecode_cons_of_ne (ne_of_isKept hkept rfl)]
  · have hhigh : spaced high = high := spaced_of_ne (hplain high (by simp)).2.1
    have hlow : spaced low = low := spaced_of_ne (hplain low (by simp)).2.1
    have hsign : spaced 0x25 = 0x25 := rfl
    simp only [hwritten, List.cons_append, List.nil_append, List.map_cons, hsign, hhigh, hlow]
    rw [percentDecode, hvalue]

theorem percentDecode_flatMap_written (bs : List UInt8) :
    percentDecode ((bs.flatMap written).map spaced) = bs := by
  induction bs with
  | nil => rfl
  | cons b rest ih => rw [List.flatMap_cons, percentDecode_written, ih]

/-- Neither separator is among the bytes that anything is written as. -/
theorem separator_notMem_written (b : UInt8) :
    ∀ c ∈ written b, c ≠ 0x26 ∧ c ≠ 0x3D := by
  obtain ⟨rfl, hwritten⟩ | ⟨hkept, hwritten⟩ | ⟨high, low, hwritten, hvalue, hplain⟩ :=
    written_cases b
  · rw [hwritten]
    intro c hc
    cases List.mem_singleton.mp hc
    decide
  · rw [hwritten]
    intro c hc
    cases List.mem_singleton.mp hc
    exact ⟨ne_of_isKept hkept rfl, ne_of_isKept hkept rfl⟩
  · rw [hwritten]
    intro c hc
    rcases List.mem_cons.mp hc with rfl | hc
    · decide
    · exact ⟨(hplain c hc).1, (hplain c hc).2.2⟩

/-! ### Names and values -/

/-- The bytes of a name or a value as it is sent. -/
def sent (s : String) : List UInt8 := Text.bytes (encodeText s)

theorem sent_eq (s : String) :
    sent s = (Text.bytes s.toList).flatMap written := by
  rw [sent, encodeText, Text.bytes, List.flatMap_assoc]
  rfl

theorem separator_notMem_sent {s : String} {c : UInt8} (h : c ∈ sent s) : c ≠ 0x26 ∧ c ≠ 0x3D := by
  rw [sent_eq] at h
  obtain ⟨b, -, hc⟩ := List.mem_flatMap.mp h
  exact separator_notMem_written b c hc

/-- A name or a value is read back as it was put in. -/
theorem decodeText_sent (s : String) : decodeText (sent s) = s := by
  have hspaced : (fun b : UInt8 => if b == 0x2B then 0x20 else b) = spaced := rfl
  rw [decodeText, hspaced, sent_eq, percentDecode_flatMap_written, Text.decodeLossy_bytes]

/-! ### Pairs -/

/-- The bytes of a pair as it is sent. -/
def sentPair (pair : String × String) : List UInt8 := sent pair.1 ++ 0x3D :: sent pair.2

/-- The first equals sign is the one behind the name. -/
theorem decodePair_sentPair (pair : String × String) : decodePair (sentPair pair) = pair := by
  have hname : ∀ b ∈ sent pair.1, (b != 0x3D) = true := fun b hb => by
    simpa using (separator_notMem_sent hb).2
  have htake : (sentPair pair).takeWhile (· != 0x3D) = sent pair.1 := by
    rw [sentPair, List.takeWhile_append_of_pos hname, List.takeWhile_cons_of_neg (by decide),
      List.append_nil]
  have hdrop : (sentPair pair).dropWhile (· != 0x3D) = 0x3D :: sent pair.2 := by
    rw [sentPair, List.dropWhile_append_of_pos hname, List.dropWhile_cons_of_neg (by decide)]
  rw [decodePair, htake, hdrop, List.drop_one, List.tail_cons, decodeText_sent, decodeText_sent]

theorem ampersand_notMem_sentPair (pair : String × String) : 0x26 ∉ sentPair pair := by
  intro h
  rcases List.mem_append.mp h with h | h
  · exact (separator_notMem_sent h).1 rfl
  · rcases List.mem_cons.mp h with h | h
    · cases h
    · exact (separator_notMem_sent h).1 rfl

theorem isEmpty_sentPair (pair : String × String) : (sentPair pair).isEmpty = false := by
  rw [sentPair]
  cases sent pair.1 <;> rfl

/-! ### All of them -/

theorem splitOn_of_notMem {separator : UInt8} {part : List UInt8} (h : separator ∉ part) :
    splitOn separator part = [part] := by
  induction part with
  | nil => rfl
  | cons b rest ih =>
    rw [List.mem_cons, not_or] at h
    rw [splitOn, if_neg (by simpa using Ne.symm h.1), ih h.2]

theorem splitOn_ne_nil (separator : UInt8) (bytes : List UInt8) : splitOn separator bytes ≠ [] := by
  cases bytes with
  | nil => simp [splitOn]
  | cons b rest =>
    rw [splitOn]
    split
    · simp
    · split <;> simp

/-- A separator ends a part, whatever stands on its sides. -/
theorem splitOn_append (separator : UInt8) (front rest : List UInt8) :
    splitOn separator (front ++ separator :: rest)
      = splitOn separator front ++ splitOn separator rest := by
  induction front with
  | nil =>
    show splitOn separator (separator :: rest) = [] :: splitOn separator rest
    rw [splitOn, if_pos (by simp)]
  | cons b front ih =>
    rw [List.cons_append, splitOn, splitOn, ih]
    split
    · rfl
    · cases hfront : splitOn separator front with
      | nil => exact absurd hfront (splitOn_ne_nil separator front)
      | cons part parts => rfl

/-- What stands on the sides of an ampersand reads as if it stood alone. -/
theorem decode_append (front rest : List UInt8) :
    decode (front ++ 0x26 :: rest) = decode front ++ decode rest := by
  rw [decode, splitOn_append, List.filter_append, List.map_append]
  rfl

theorem encodePair_bytes (pair : String × String) :
    Text.bytes (encodePair pair) = sentPair pair := by
  rw [encodePair, Text.bytes_append, Text.bytes_cons]
  rfl

/-- The parts of what is sent are the pairs, one for one. -/
theorem splitOn_encode : ∀ pair pairs,
    splitOn 0x26 (Text.bytes (encode (pair :: pairs)))
      = (pair :: pairs).map sentPair := by
  intro pair pairs
  induction pairs generalizing pair with
  | nil =>
    rw [encode, encodePair_bytes, splitOn_of_notMem (ampersand_notMem_sentPair pair)]
    rfl
  | cons next pairs ih =>
    have hsign : String.utf8EncodeChar '&' = [0x26] := rfl
    rw [encode, Text.bytes_append, Text.bytes_cons, encodePair_bytes, hsign,
      List.singleton_append, splitOn_append, splitOn_of_notMem (ampersand_notMem_sentPair pair),
      ih next]
    · rfl
    · simp

/-- **Pairs are read back as they were put in**, in their order and none besides. -/
theorem decode_encode (pairs : List (String × String)) :
    decode (Text.bytes (encode pairs)) = pairs := by
  cases pairs with
  | nil => rfl
  | cons pair pairs =>
    have hfilter : ((pair :: pairs).map sentPair).filter (fun part => !part.isEmpty)
        = (pair :: pairs).map sentPair := by
      rw [List.filter_eq_self]
      intro part hpart
      obtain ⟨p, -, rfl⟩ := List.mem_map.mp hpart
      simp [isEmpty_sentPair]
    rw [decode, splitOn_encode, hfilter, List.map_map]
    exact (List.map_congr_left fun p _ => decodePair_sentPair p).trans (List.map_id _)

end Form
end HealthBoard.Url
