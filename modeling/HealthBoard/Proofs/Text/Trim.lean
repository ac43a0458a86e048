/-
Texts and the white space at their ends.

`Padded` says that a text is another one with white space put around it.  Trimming finds such a core
(`padded_trim`), and whatever is padded trims to what its core trims to (`Padded.trim_eq`), so that
white space at the ends is all that trimming passes over.
-/
import HealthBoard.Text.Blank
import Mathlib.Data.List.TakeWhile

namespace HealthBoard.Text

/-- The text is the core with white space around it, or with none. -/
def Padded (core text : String) : Prop :=
  ∃ before after, text.toList = before ++ core.toList ++ after ∧
    (∀ c ∈ before, isBlank c = true) ∧ ∀ c ∈ after, isBlank c = true

theorem padded_of_all {core text : String} (before after : List Char)
    (htext : text.toList = before ++ core.toList ++ after) (hbefore : before.all isBlank = true)
    (hafter : after.all isBlank = true) : Padded core text :=
  ⟨before, after, htext, List.all_eq_true.mp hbefore, List.all_eq_true.mp hafter⟩

/-- Of a text only white space is cut off. -/
theorem padded_trim (s : String) : Padded (trim s) s := by
  have hfront := List.takeWhile_append_dropWhile (p := isBlank) (l := s.toList)
  have hback := List.takeWhile_append_dropWhile (p := isBlank)
    (l := (s.toList.dropWhile isBlank).reverse)
  refine ⟨s.toList.takeWhile isBlank,
    ((s.toList.dropWhile isBlank).reverse.takeWhile isBlank).reverse, ?_, ?_, ?_⟩
  · unfold trim trimChars
    rw [String.toList_ofList, List.append_assoc, ← List.reverse_append, hback, List.reverse_reverse,
      hfront]
  · intro c hc
    exact List.mem_takeWhile_imp hc
  · intro c hc
    exact List.mem_takeWhile_imp (List.mem_reverse.mp hc)

/-- What is left without white space at the ends is nothing exactly if all is white space. -/
theorem trim_eq_empty_iff {s : String} : trim s = "" ↔ isAllBlank s = true := by
  have hchars : trim s = "" ↔ ∀ c ∈ s.toList.dropWhile isBlank, isBlank c = true := by
    unfold trim trimChars
    rw [String.ofList_eq_empty_iff, List.reverse_eq_nil_iff, List.dropWhile_eq_nil_iff]
    simp only [List.mem_reverse]
  unfold isAllBlank
  rw [hchars, List.all_eq_true]
  constructor
  · intro h c hc
    rw [← List.takeWhile_append_dropWhile (p := isBlank) (l := s.toList), List.mem_append] at hc
    rcases hc with hfront | hback
    · exact List.mem_takeWhile_imp hfront
    · exact h c hback
  · intro h c hc
    exact h c ((List.dropWhile_sublist isBlank).subset hc)

/-! ### White space put around a text -/

theorem trimChars_append_blank (cs : List Char) {after : List Char}
    (h : ∀ c ∈ after, isBlank c = true) : trimChars (cs ++ after) = trimChars cs := by
  unfold trimChars
  rw [List.dropWhile_append]
  split
  · rename_i hblank
    have hnone : cs.dropWhile isBlank = [] := List.isEmpty_iff.mp hblank
    have hafter : after.dropWhile isBlank = [] := List.dropWhile_eq_nil_iff.mpr h
    rw [hnone, hafter]
  · have hback : ∀ c ∈ after.reverse, isBlank c = true := fun c hc => h c (List.mem_reverse.mp hc)
    rw [List.reverse_append, List.dropWhile_append_of_pos hback]

theorem Padded.trim_eq {core text : String} (h : Padded core text) : trim text = trim core := by
  obtain ⟨before, after, htext, hbefore, hafter⟩ := h
  have hfront : trimChars (before ++ core.toList) = trimChars core.toList := by
    unfold trimChars
    rw [List.dropWhile_append_of_pos hbefore]
  unfold trim
  rw [htext, trimChars_append_blank _ hafter, hfront]

end HealthBoard.Text
