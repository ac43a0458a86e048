/-
A part of a text in lower case, inside the text and on its own.

All characters but one are lowered wherever they stand.  The capital sigma is lowered by its place,
and the place is not the same in a text and in a part that is cut out of it: where the part ends, a
word may end that goes on in the text.  `lowerWithin` lowers a part where it stands.  The text in
lower case has that in it, and it is the part in lower case exactly if every capital sigma of the
part ends a word either in both or in neither (`lowerWithin_eq_iff`).

A part that is cut out between words has nothing to fear, because looking for a cased character
beyond its ends finds none (`sigmasAgree_between`); that is so if only white space was cut off.
-/
import HealthBoard.Text.Blank
import HealthBoard.Text.Lowercase
import Mathlib.Data.List.TakeWhile

namespace HealthBoard.Text

/-- A capital sigma ends a word here.  What comes before it is given in reverse order. -/
def EndsWord (before after : List Char) : Prop :=
  meetsCased before = true ∧ meetsCased after = false

instance (before after : List Char) : Decidable (EndsWord before after) := by
  unfold EndsWord
  infer_instance

/-- The lower-case form of a character where it stands. -/
def lowerAt (before : List Char) (c : Char) (after : List Char) : List Char :=
  if c = 'Σ' then (if EndsWord before after then ['ς'] else ['σ']) else lowerChar c

/-- A part in lower case where it stands, what comes before it given in reverse order. -/
def lowerWithin (before part after : List Char) : List Char :=
  match part with
  | [] => []
  | c :: rest => lowerAt before c (rest ++ after) ++ lowerWithin (c :: before) rest after

variable {before before' after after' part : List Char}

theorem lowerFrom_cons (before : List Char) (c : Char) (rest : List Char) :
    lowerFrom before (c :: rest) = lowerAt before c rest ++ lowerFrom (c :: before) rest := by
  unfold lowerAt EndsWord
  rw [lowerFrom]
  simp only [beq_iff_eq, Bool.and_eq_true, Bool.not_eq_true']

theorem lowerFrom_append (before part after : List Char) :
    lowerFrom before (part ++ after)
      = lowerWithin before part after ++ lowerFrom (part.reverse ++ before) after := by
  induction part generalizing before with
  | nil => rfl
  | cons c rest ih =>
      rw [List.cons_append, lowerFrom_cons, ih, lowerWithin, List.append_assoc, List.reverse_cons,
        List.append_assoc, List.singleton_append]

theorem lowerFrom_eq_lowerWithin (before part : List Char) :
    lowerFrom before part = lowerWithin before part [] := by
  have h := lowerFrom_append before part []
  rwa [List.append_nil, lowerFrom, List.append_nil] at h

/-- Nothing is lowered away. -/
theorem lowerAt_ne_nil (before : List Char) (c : Char) (after : List Char) :
    lowerAt before c after ≠ [] := by
  unfold lowerAt lowerChar
  split
  · split <;> exact List.cons_ne_nil _ _
  · simp only
    split
    · exact List.cons_ne_nil _ _
    · split
      · exact List.cons_ne_nil _ _
      · split <;> exact List.cons_ne_nil _ _

theorem lowercase_eq_empty_iff {s : String} : lowercase s = "" ↔ s = "" := by
  unfold lowercase
  rw [String.ofList_eq_empty_iff]
  constructor
  · intro h
    cases hs : s.toList with
    | nil => rwa [String.toList_eq_nil_iff] at hs
    | cons c rest =>
        rw [hs, lowerFrom_cons, List.append_eq_nil_iff] at h
        exact absurd h.1 (lowerAt_ne_nil _ _ _)
  · rintro rfl
    rfl

/-- A text without capitals stays as it is. -/
theorem lowercase_eq_self {s : String} (h : ∀ c ∈ s.toList, c ≠ 'Σ' ∧ lowerChar c = [c]) :
    lowercase s = s := by
  have hfrom : ∀ (cs before : List Char), (∀ c ∈ cs, c ≠ 'Σ' ∧ lowerChar c = [c]) →
      lowerFrom before cs = cs := by
    intro cs
    induction cs with
    | nil =>
        intro before _
        rfl
    | cons c rest ih =>
        intro before hcs
        obtain ⟨⟨hsigma, hc⟩, hrest⟩ := List.forall_mem_cons.mp hcs
        rw [lowerFrom_cons, ih _ hrest, lowerAt, if_neg hsigma, hc]
        rfl
  rw [lowercase, hfrom _ _ h, String.ofList_toList]

/-! ### One character in two places -/

theorem lowerAt_eq_iff {c : Char} :
    lowerAt before c after = lowerAt before' c after' ↔
      (c = 'Σ' → (EndsWord before after ↔ EndsWord before' after')) := by
  unfold lowerAt
  by_cases hc : c = 'Σ'
  · rw [if_pos hc, if_pos hc]
    by_cases h : EndsWord before after <;> by_cases h' : EndsWord before' after' <;>
      simp [h, h', hc]
  · simp [hc]

theorem length_lowerAt (before before' : List Char) (c : Char) (after after' : List Char) :
    (lowerAt before c after).length = (lowerAt before' c after').length := by
  unfold lowerAt
  by_cases hc : c = 'Σ'
  · rw [if_pos hc, if_pos hc]
    split <;> split <;> rfl
  · rw [if_neg hc, if_neg hc]

/-! ### One part in two places -/

/--
**A part is lowered alike in two places exactly if its capital sigmas end words in both or in
neither.**  The induction is on the part: its first character comes out as long in one place as in
the other, so that what is left comes out alike too.
-/
theorem lowerWithin_eq_iff :
    lowerWithin before part after = lowerWithin before' part after' ↔
      ∀ start rest, part = start ++ 'Σ' :: rest →
        (EndsWord (start.reverse ++ before) (rest ++ after) ↔
          EndsWord (start.reverse ++ before') (rest ++ after')) := by
  induction part generalizing before before' with
  | nil => simp [lowerWithin]
  | cons c tail ih =>
      unfold lowerWithin
      constructor
      · intro h start rest hpart
        obtain ⟨hhead, htail⟩ := List.append_inj h (length_lowerAt _ _ _ _ _)
        cases start with
        | nil =>
            obtain ⟨rfl, rfl⟩ := List.cons.inj hpart
            exact lowerAt_eq_iff.mp hhead rfl
        | cons d start =>
            obtain ⟨rfl, rfl⟩ := List.cons.inj hpart
            rw [List.reverse_cons, List.append_assoc, List.append_assoc]
            exact ih.mp htail start rest rfl
      · intro h
        have hhead : lowerAt before c (tail ++ after) = lowerAt before' c (tail ++ after') := by
          refine lowerAt_eq_iff.mpr ?_
          rintro rfl
          exact h [] tail rfl
        have htail : lowerWithin (c :: before) tail after
            = lowerWithin (c :: before') tail after' := by
          refine ih.mpr ?_
          rintro start rest rfl
          have hlater := h (c :: start) rest rfl
          rwa [List.reverse_cons, List.append_assoc, List.append_assoc] at hlater
        rw [hhead, htail]

/-- Between these two, every capital sigma of the part ends a word exactly if it does in the part
alone. -/
def SigmasAgree (before part after : List Char) : Prop :=
  ∀ start rest, part = start ++ 'Σ' :: rest →
    (EndsWord (start.reverse ++ before.reverse) (rest ++ after) ↔ EndsWord start.reverse rest)

theorem lowerWithin_eq_lowerFrom_iff :
    lowerWithin before.reverse part after = lowerFrom [] part ↔ SigmasAgree before part after := by
  rw [lowerFrom_eq_lowerWithin, lowerWithin_eq_iff]
  simp only [List.append_nil]
  rfl

/-- A part without a capital sigma is lowered alike everywhere. -/
theorem sigmasAgree_of_notMem (h : 'Σ' ∉ part) : SigmasAgree before part after := by
  rintro start rest rfl
  exact absurd (by simp) h

theorem meetsCased_append (cs : List Char) (h : meetsCased after = false) :
    meetsCased (cs ++ after) = meetsCased cs := by
  induction cs with
  | nil => exact h
  | cons c rest ih =>
      unfold meetsCased at ih ⊢
      rw [List.cons_append, List.dropWhile_cons, List.dropWhile_cons]
      by_cases hc : isCaseIgnorable c = true
      · rw [if_pos hc, if_pos hc]
        exact ih
      · rw [if_neg hc, if_neg hc]

/-- A part is lowered alike if no word goes on beyond its ends. -/
theorem sigmasAgree_between (hbefore : meetsCased before.reverse = false)
    (hafter : meetsCased after = false) : SigmasAgree before part after := by
  intro start rest _
  unfold EndsWord
  rw [meetsCased_append _ hbefore, meetsCased_append _ hafter]

/-- The part in lower case occurs in the text if the part does and is lowered alike there. -/
theorem lowercase_infix {text part : String} {before after : List Char}
    (htext : text.toList = before ++ part.toList ++ after)
    (h : SigmasAgree before part.toList after) :
    (lowercase part).toList <:+: (lowercase text).toList := by
  refine ⟨lowerWithin [] before (part.toList ++ after),
    lowerFrom (part.toList.reverse ++ before.reverse) after, ?_⟩
  unfold lowercase
  rw [String.toList_ofList, String.toList_ofList, htext, List.append_assoc before, lowerFrom_append,
    List.append_nil, lowerFrom_append, lowerWithin_eq_lowerFrom_iff.mpr h, List.append_assoc]

/-! ### White space at the ends -/

/-- The code points of white space. -/
def blankCodes : List Nat :=
  [0x9, 0xA, 0xB, 0xC, 0xD, 0x20, 0x85, 0xA0, 0x1680, 0x2000, 0x2001, 0x2002, 0x2003, 0x2004,
    0x2005, 0x2006, 0x2007, 0x2008, 0x2009, 0x200A, 0x2028, 0x2029, 0x202F, 0x205F, 0x3000]

theorem toNat_mem_blankCodes {c : Char} (h : isBlank c = true) : c.toNat ∈ blankCodes := by
  unfold isBlank at h
  simp only [Bool.or_eq_true, Bool.and_eq_true, decide_eq_true_eq, beq_iff_eq] at h
  simp only [blankCodes, List.mem_cons, List.not_mem_nil, or_false]
  omega

/-- White space is neither passed over nor cased. -/
theorem not_cased_of_isBlank {c : Char} (h : isBlank c = true) :
    isCaseIgnorable c = false ∧ isCased c = false := by
  have hcodes : ∀ n ∈ blankCodes,
      isCaseIgnorable (Char.ofNat n) = false ∧ isCased (Char.ofNat n) = false := by
    decide +kernel
  have hc := hcodes c.toNat (toNat_mem_blankCodes h)
  rwa [Char.ofNat_toNat] at hc

theorem meetsCased_of_blank {cs : List Char} (h : ∀ c ∈ cs, isBlank c = true) :
    meetsCased cs = false := by
  cases cs with
  | nil => rfl
  | cons c rest =>
      obtain ⟨hignorable, hcased⟩ := not_cased_of_isBlank (h c List.mem_cons_self)
      unfold meetsCased
      rw [List.dropWhile_cons, hignorable, if_neg Bool.false_ne_true]
      exact hcased

end HealthBoard.Text
