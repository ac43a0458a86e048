/-
What becomes of a text that is given in the environment.

A variable has no type, so its value is taken for a truth value or a number where it reads like one,
and where a text is wanted it is turned into one again.  That is not always the text that was given.
`Reread` says what it is; `Literal` is for texts that stay as they are, and says the same as that
(`Reread.eq_iff`).  What becomes of a number is spelled in one way only, so a number that is spelled
in any other way does not stay (`Reread.ne_of_disguised`).
-/
import HealthBoard.Proofs.Settings.Numerals
import HealthBoard.Proofs.Text.Lowercase
import HealthBoard.Settings.Source

namespace HealthBoard

/-! ### Texts of numbers -/

theorem Decimal.lowercase_text (n : Int) : Text.lowercase (Decimal.text n) = Decimal.text n := by
  refine Text.lowercase_eq_self fun c hc => ?_
  have hdigit : ∀ i : Fin 10, Decimal.digitChar i ≠ 'Σ' ∧
      Text.lowerChar (Decimal.digitChar i) = [Decimal.digitChar i] := by decide
  have hdigits : ∀ c ∈ Decimal.digits n.natAbs, c ≠ 'Σ' ∧ Text.lowerChar c = [c] := by
    intro c hc
    obtain ⟨d, hd, rfl⟩ := Decimal.mem_digits hc
    exact hdigit ⟨d, hd⟩
  unfold Decimal.text Decimal.ofInt at hc
  rw [String.toList_ofList] at hc
  split at hc
  · rcases List.mem_cons.mp hc with rfl | hc
    · decide
    · exact hdigits c hc
  · exact hdigits c hc

namespace Environment

open Setting (yesNoText)

/-- The text is none of the two words for truth values, in any case. -/
def NoWord (t : String) : Prop := ∀ b, Text.lowercase t ≠ yesNoText b

def NoInteger (t : String) : Prop := ∀ n, Decimal.readInteger t ≠ .ok n

/-- What becomes of a text. -/
inductive Reread (t : String) : String → Prop
  | word {b : Bool} (h : Text.lowercase t = yesNoText b) : Reread t (yesNoText b)
  | integer {n : Int64} (hword : NoWord t) (h : Decimal.readInteger t = .ok n) :
      Reread t (Decimal.text n.toInt)
  | number {x : Float} (hword : NoWord t) (hinteger : NoInteger t)
      (h : Decimal.readFloat? t = some x) : Reread t (Decimal.settingLayout.text x)
  | other (hword : NoWord t) (hinteger : NoInteger t) (hnumber : Decimal.readFloat? t = none) :
      Reread t t

/-- The text is no other way to write a truth value or a number. -/
inductive Literal (t : String) : Prop
  | word {b : Bool} (h : t = yesNoText b)
  | integer {n : Int64} (h : t = Decimal.text n.toInt)
  | number {x : Float} (hword : NoWord t) (hinteger : NoInteger t)
      (hread : Decimal.readFloat? t = some x) (h : t = Decimal.settingLayout.text x)
  | other (hword : NoWord t) (hinteger : NoInteger t) (hnumber : Decimal.readFloat? t = none)

/-- The text is a truth value with capitals, or a number with a plus sign, an exponent or a zero in
front. -/
inductive Disguised (t : String) : Prop
  | word {b : Bool} (h : Text.lowercase t = yesNoText b) (hcase : t ≠ yesNoText b)
  | integer {n : Int64} (h : Decimal.readInteger t = .ok n) (hornate : Decimal.Ornate t.toList)
  | number {x : Float} (h : Decimal.readFloat? t = some x) (hornate : Decimal.Ornate t.toList)

variable {t token : String}

/-! ### What is read -/

theorem noWord_of_ne (htrue : Text.lowercase t ≠ "true") (hfalse : Text.lowercase t ≠ "false") :
    NoWord t := by
  intro b
  cases b with
  | true => exact htrue
  | false => exact hfalse

/-- **Every text becomes one**: what it is taken for can always be turned into a text again. -/
theorem exists_reread (t : String) :
    ∃ token, Reread t token ∧
      ∀ origin, (Setting.scalar origin (scalarOf t)).asText = .ok token := by
  unfold scalarOf
  split
  · rename_i htrue
    exact ⟨_, @Reread.word t true htrue, fun _ => rfl⟩
  · rename_i hfalse
    exact ⟨_, @Reread.word t false hfalse, fun _ => rfl⟩
  · rename_i hinteger htrue hfalse
    exact ⟨_, .integer (noWord_of_ne htrue hfalse) hinteger, fun _ => rfl⟩
  · rename_i hnumber htrue hfalse hinteger
    exact ⟨_, .number (noWord_of_ne htrue hfalse) hinteger hnumber, fun _ => rfl⟩
  · rename_i hnumber htrue hfalse hinteger
    exact ⟨_, .other (noWord_of_ne htrue hfalse) hinteger hnumber, fun _ => rfl⟩

/-- The words for truth values are in lower case themselves, and are no numbers. -/
theorem yesNoText_spec (b : Bool) :
    Text.lowercase (yesNoText b) = yesNoText b ∧ NoInteger (yesNoText b) ∧
      Decimal.readFloat? (yesNoText b) = none := by
  have hinteger : (Decimal.readInteger (yesNoText b)).toOption = none := by
    cases b <;> decide +kernel
  refine ⟨?_, ?_, ?_⟩
  · cases b <;> decide +kernel
  · intro n hn
    rw [hn] at hinteger
    cases hinteger
  · cases b <;> decide +kernel

theorem not_noWord (b : Bool) : ¬ NoWord (yesNoText b) :=
  fun h => h b (yesNoText_spec b).1

theorem noWord_text (n : Int64) : NoWord (Decimal.text n.toInt) := by
  intro b hb
  rw [Decimal.lowercase_text] at hb
  exact (yesNoText_spec b).2.1 n (hb ▸ Decimal.readInteger_text n)

/-! ### What stays as it is -/

/-- **A text stays as it is exactly if it is no other way to write something.** -/
theorem Reread.eq_iff (h : Reread t token) : token = t ↔ Literal t := by
  constructor
  · rintro rfl
    cases h with
    | word h => exact .word rfl
    | integer hword h => exact .integer rfl
    | number hword hinteger h => exact .number hword hinteger h rfl
    | other hword hinteger hnumber => exact .other hword hinteger hnumber
  · intro hliteral
    cases h with
    | word h =>
        cases hliteral with
        | word heq => rw [← h, heq, (yesNoText_spec _).1]
        | integer heq => exact absurd h (heq ▸ noWord_text _ _)
        | number hword => exact absurd h (hword _)
        | other hword => exact absurd h (hword _)
    | integer hword h =>
        cases hliteral with
        | word heq => exact absurd hword (heq ▸ not_noWord _)
        | integer heq =>
            rw [heq, Decimal.readInteger_text] at h
            rw [heq, Except.ok.inj h]
        | number _ hinteger => exact absurd h (hinteger _)
        | other _ hinteger => exact absurd h (hinteger _)
    | number hword hinteger h =>
        cases hliteral with
        | word heq => exact absurd hword (heq ▸ not_noWord _)
        | integer heq => exact absurd (heq ▸ Decimal.readInteger_text _) (hinteger _)
        | number _ _ hread heq =>
            rw [h] at hread
            rw [heq, Option.some.inj hread]
        | other _ _ hnumber =>
            rw [h] at hnumber
            cases hnumber
    | other => rfl

/-- **What is in disguise does not stay**: no text of a truth value or a number is spelled so. -/
theorem Reread.ne_of_disguised (h : Reread t token) (hdisguised : Disguised t) : token ≠ t := by
  rintro rfl
  cases h with
  | word h =>
      cases hdisguised with
      | word h' hcase => exact hcase (by rw [← h', (yesNoText_spec _).1])
      | integer hread => exact (yesNoText_spec _).2.1 _ hread
      | number hread =>
          rw [(yesNoText_spec _).2.2] at hread
          cases hread
  | integer hword h =>
      cases hdisguised with
      | word h' => exact hword _ h'
      | integer _ hornate => exact Decimal.not_ornate_text _ hornate
      | number _ hornate => exact Decimal.not_ornate_text _ hornate
  | number hword hinteger h =>
      cases hdisguised with
      | word h' => exact hword _ h'
      | integer _ hornate => exact Decimal.not_ornate_settingText _ hornate
      | number _ hornate => exact Decimal.not_ornate_settingText _ hornate
  | other hword hinteger hnumber =>
      cases hdisguised with
      | word h' => exact hword _ h'
      | integer hread => exact hinteger _ hread
      | number hread =>
          rw [hnumber] at hread
          cases hread

end Environment
end HealthBoard
