/-
Whether a search finds what it is shown.

A keyword that stands in a name letter by letter should find the name.  Name and keyword are put
into lower case one by one, and a capital sigma is lowered by its place, so the keyword can end a
word where the name does not.  Then it is not found: `filterByName_misses` shows such a name.

This is all that can go wrong.  A keyword that is lowered in the name as it is on its own is found,
and when it is so is said by `Text.lowerWithin_eq_iff`.
-/
import HealthBoard.Proofs.Health.Search
import HealthBoard.Proofs.Text.Lowercase
import HealthBoard.Proofs.Text.Trim

namespace HealthBoard

open Text (SigmasAgree)

variable {keyword name : String} {before after : List Char}

/-- The keyword, without white space at its ends, stands in the name between these two. -/
def StandsIn (keyword name : String) (before after : List Char) : Prop :=
  name.toList = before ++ (Text.trim keyword).toList ++ after

theorem StandsIn.answers (h : StandsIn keyword name before after)
    (hsigmas : SigmasAgree before (Text.trim keyword).toList after) : Answers keyword name :=
  .inr (Text.lowercase_infix h hsigmas)

/-- A name answers to itself: all that is cut off is white space, and no word goes on there. -/
theorem answers_self (name : String) : Answers name name := by
  obtain ⟨before, after, hname, hbefore, hafter⟩ := Text.padded_trim name
  have hstands : StandsIn name name before after := hname
  refine hstands.answers (Text.sigmasAgree_between ?_ ?_)
  · exact Text.meetsCased_of_blank fun c hc => hbefore c (List.mem_reverse.mp hc)
  · exact Text.meetsCased_of_blank hafter

theorem mem_filterByName_iff {models : List ModelRollup} {m : ModelRollup} :
    m ∈ filterByName models keyword ↔ m ∈ models ∧ Answers keyword m.modelName := by
  unfold filterByName
  rw [List.mem_filter, findsName_eq_true_iff]

/--
**A search finds what it is shown, but for capital sigmas.**  The models that are found keep their
order.  A model is found by its own name, and by every keyword that stands in its name if each
capital sigma of the keyword ends a word in both or in neither.  So it is if there is none, or if no
word goes on beyond the ends of the keyword.  If it is not so, then the keyword is lowered to
something else in the name than on its own.
-/
theorem filterByName_shown (models : List ModelRollup) (keyword : String) :
    (filterByName models keyword).Sublist models ∧
    ∀ m ∈ models, m ∈ filterByName models m.modelName ∧
      ∀ before after, StandsIn keyword m.modelName before after →
        (SigmasAgree before (Text.trim keyword).toList after → m ∈ filterByName models keyword) ∧
        ('Σ' ∉ (Text.trim keyword).toList → m ∈ filterByName models keyword) ∧
        (Text.meetsCased before.reverse = false → Text.meetsCased after = false →
          m ∈ filterByName models keyword) ∧
        (Text.lowerWithin before.reverse (Text.trim keyword).toList after
            = (Text.lowercase (Text.trim keyword)).toList ↔
          SigmasAgree before (Text.trim keyword).toList after) := by
  refine ⟨List.filter_sublist, fun m hm => ⟨?_, fun before after hstands => ?_⟩⟩
  · exact mem_filterByName_iff.mpr ⟨hm, answers_self _⟩
  · have hfound (hsigmas : SigmasAgree before (Text.trim keyword).toList after) :
        m ∈ filterByName models keyword :=
      mem_filterByName_iff.mpr ⟨hm, hstands.answers hsigmas⟩
    refine ⟨hfound, fun h => hfound (Text.sigmasAgree_of_notMem h),
      fun hbefore hafter => hfound (Text.sigmasAgree_between hbefore hafter), ?_⟩
    rw [Text.lowercase, String.toList_ofList]
    exact Text.lowerWithin_eq_lowerFrom_iff

/-- The keyword ends a word where the name does: at the end of a part of it. -/
theorem filterByName_shown_words :
    let m : ModelRollup := ⟨"ΒΑΣ-7", 0, 0, 0, []⟩
    m ∈ [m] ∧ StandsIn " ΑΣ" m.modelName ['Β'] ['-', '7'] ∧
      SigmasAgree ['Β'] (Text.trim " ΑΣ").toList ['-', '7'] ∧ m ∈ filterByName [m] " ΑΣ" := by
  intro m
  have hm : m ∈ [m] := List.mem_singleton_self m
  have hstands : StandsIn " ΑΣ" m.modelName ['Β'] ['-', '7'] := by
    unfold StandsIn
    decide
  obtain ⟨-, hall⟩ := filterByName_shown [m] " ΑΣ"
  obtain ⟨hfound, -, -, hsigmas⟩ := (hall m hm).2 ['Β'] ['-', '7'] hstands
  have hagree : SigmasAgree ['Β'] (Text.trim " ΑΣ").toList ['-', '7'] :=
    hsigmas.mp (by decide +kernel)
  exact ⟨hm, hstands, hagree, hfound hagree⟩

/-- A word goes on where the keyword ends, so that its sigma is another letter in lower case. -/
theorem filterByName_misses :
    let m : ModelRollup := ⟨"ΑΣΑ", 0, 0, 0, []⟩
    StandsIn "ΑΣ" m.modelName [] ['Α'] ∧ m ∉ filterByName [m] "ΑΣ" := by
  intro m
  refine ⟨?_, fun hfound => ?_⟩
  · unfold StandsIn
    decide
  · have hanswers : Answers "ΑΣ" "ΑΣΑ" := (mem_filterByName_iff.mp hfound).2
    exact absurd hanswers (by decide +kernel)

end HealthBoard
