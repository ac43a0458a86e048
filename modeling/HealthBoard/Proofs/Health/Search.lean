/-
Searching after adding up, or before.

A search looks at a model's name only, and so it could as well look at the names of the records and
leave out those that it does not find before anything is added up.  What makes the two the same is
that nothing in a rollup reaches from one name to another: the list of names is filtered like the
records, a model is made from the records of its own name, and the models that are left stand in the
order in which they stood.

A program that stops at a sum sees a difference: it may stop in the sums of a model that the search
leaves out, which are not even begun if the records are left out before.
-/
import HealthBoard.Proofs.Health.Ranking

namespace HealthBoard

theorem occursIn_eq_true_iff {part text : List Char} :
    occursIn part text = true ↔ part <:+: text := by
  induction text with
  | nil => simp [occursIn]
  | cons c rest ih =>
      unfold occursIn
      rw [Bool.or_eq_true, ih, List.isPrefixOf_iff_prefix, List.infix_cons_iff]

/-- A name answers to a keyword: it has the keyword in it, both in lower case, or there is none. -/
def Answers (keyword name : String) : Prop :=
  Text.trim keyword = "" ∨
    (Text.lowercase (Text.trim keyword)).toList <:+: (Text.lowercase name).toList

theorem findsName_eq_true_iff {keyword name : String} :
    findsName keyword name = true ↔ Answers keyword name := by
  unfold findsName Answers
  rw [Bool.or_eq_true, beq_iff_eq, occursIn_eq_true_iff]

instance (keyword name : String) : Decidable (Answers keyword name) :=
  decidable_of_iff _ findsName_eq_true_iff

namespace Rollup

/-- The records of names that are left out have no part in any other model. -/
theorem ofModel_filter {keeps : String → Bool} {name : String} (h : keeps name = true)
    (records : List HourlyRecord) (hours : List Int64) :
    ofModel (records.filter fun r => keeps r.modelName) hours name
      = ofModel records hours name :=
  ofModel_congr (latest?_filter h records) hours

/--
**Leaving out names commutes with adding up.**  Both sides have the models of the names that are
kept.  They stand in the same order because both stand in the order of all records: the models on
the left stood in it before some were left out, and those on the right are sorted into it, the names
that are kept being seen in the order in which all names are.
-/
theorem filter_rollup (keeps : String → Bool) (records : List HourlyRecord) (hours : List Int64) :
    (rollup records hours).filter (fun m => keeps m.modelName)
      = rollup (records.filter fun r => keeps r.modelName) hours := by
  have hmodels : (modelNames (records.filter fun r => keeps r.modelName)).map
        (ofModel (records.filter fun r => keeps r.modelName) hours)
      = ((modelNames records).map (ofModel records hours)).filter fun m => keeps m.modelName := by
    rw [modelNames_filter, List.filter_map]
    exact List.map_congr_left fun name hin => ofModel_filter (List.mem_filter.mp hin).2 _ _
  have hkept : ((rollup records hours).filter fun m => keeps m.modelName).Pairwise
      (Precedes records) := (pairwise_rollup records hours).filter _
  have hsorted : (rollup (records.filter fun r => keeps r.modelName) hours).Pairwise
      (Precedes records) := by
    rw [rollup_eq_mergeSort, hmodels]
    refine pairwise_mergeSort_precedes (List.Pairwise.filter _ (List.pairwise_map.mpr ?_))
    exact pairwise_modelNames records
  refine eq_of_perm_of_precedes ?_ hkept hsorted
  rw [rollup_eq_mergeSort, rollup_eq_mergeSort, hmodels]
  exact ((List.mergeSort_perm _ _).filter _).trans (List.mergeSort_perm _ _).symm

/-- A program gets through the records that are kept if it gets through each model of them. -/
theorem bears_filter_iff (keeps : String → Bool) (o : Overflow) (records : List HourlyRecord)
    (hours : List Int64) :
    (∀ name ∈ modelNames (records.filter fun r => keeps r.modelName),
        o.BearsModel (records.filter fun r => keeps r.modelName) hours name) ↔
      ∀ name ∈ modelNames records, keeps name = true → o.BearsModel records hours name := by
  rw [modelNames_filter]
  simp only [List.mem_filter, and_imp]
  exact forall₂_congr fun name _ => forall_congr' fun hkept =>
    Overflow.bearsModel_congr (latest?_filter hkept records)

end Rollup

open Rollup

/-- The records of the names that answer to a keyword. -/
def answering (keyword : String) (records : List HourlyRecord) : List HourlyRecord :=
  records.filter fun r => Answers keyword r.modelName

theorem answering_eq_filter (keyword : String) (records : List HourlyRecord) :
    answering keyword records = records.filter fun r => findsName keyword r.modelName := by
  refine List.filter_congr fun r _ => ?_
  exact Bool.eq_iff_iff.mpr (decide_eq_true_iff.trans findsName_eq_true_iff.symm)

/--
**A search may be made before or after adding up.**  If there is a rollup of all records, the models
that a keyword finds in it are the rollup of the records whose names answer to it.  So a search
leaves out models and does nothing else: those it finds are models of the whole rollup, all that
answer are among them, and they stand in the same order.  A program that goes on has a rollup of any
records.  One that stops has one of the records that answer and none of all records only if it stops
in the sums of a model that does not answer.
-/
theorem filterByName_rollup (o : Overflow) (records : List HourlyRecord) (hours : List Int64)
    (keyword : String) :
    Overflow.wraps.rollup? records hours = some (rollup records hours) ∧
      (∀ models, o.rollup? records hours = some models →
        o.rollup? (answering keyword records) hours = some (filterByName models keyword) ∧
        (filterByName models keyword).Sublist models ∧
        ∀ m, m ∈ filterByName models keyword ↔ m ∈ models ∧ Answers keyword m.modelName) ∧
      (o.rollup? records hours = none → o.rollup? (answering keyword records) hours ≠ none →
        ∃ name ∈ modelNames records,
          ¬ Answers keyword name ∧ ¬ o.BearsModel records hours name) := by
  refine ⟨Overflow.rollup?_wraps records hours, ?_, ?_⟩
  · intro models hmodels
    obtain ⟨rfl, hbears⟩ := Overflow.rollup?_eq_some_iff.mp hmodels
    refine ⟨?_, List.filter_sublist, fun m => ?_⟩
    · rw [answering_eq_filter, Overflow.rollup?_eq_some_iff, bears_filter_iff]
      exact ⟨filter_rollup (findsName keyword) records hours, fun name hname _ => hbears name hname⟩
    · unfold filterByName
      rw [List.mem_filter, findsName_eq_true_iff]
  · intro hnone hsome
    rw [Overflow.rollup?_eq_none_iff_not] at hnone
    rw [Ne, Overflow.rollup?_eq_none_iff_not, not_not, answering_eq_filter,
      bears_filter_iff] at hsome
    obtain ⟨name, hname⟩ := not_forall.mp hnone
    obtain ⟨hin, hstops⟩ := Classical.not_imp.mp hname
    exact ⟨name, hin, fun hanswers =>
      hstops (hsome name hin (findsName_eq_true_iff.mpr hanswers)), hstops⟩

/-- A model is found among others, before they are added up and after. -/
theorem filterByName_rollup_low :
    let hours : List Int64 := [0, 3600, 7200]
    Overflow.wraps.rollup? steepRecords hours = some (rollup steepRecords hours) ∧
      Overflow.wraps.rollup? (answering " LOW" steepRecords) hours
        = some (filterByName (rollup steepRecords hours) " LOW") ∧
      (filterByName (rollup steepRecords hours) " LOW").Sublist (rollup steepRecords hours) := by
  intro hours
  have hmodels : Overflow.wraps.rollup? steepRecords hours = some (rollup steepRecords hours) :=
    Overflow.rollup?_wraps steepRecords hours
  obtain ⟨-, hfound, -⟩ := filterByName_rollup .wraps steepRecords hours " LOW"
  obtain ⟨hsearched, hsublist, -⟩ := hfound _ hmodels
  exact ⟨hmodels, hsearched, hsublist⟩

/-- A program that stops at a sum finds the model only if the others are left out before. -/
theorem filterByName_rollup_stops :
    let hours : List Int64 := [0, 3600, 7200]
    Overflow.stops.rollup? steepRecords hours = none ∧
      (Overflow.stops.rollup? (answering "low" steepRecords) hours).isSome ∧
      (Overflow.stops.rollup? steepRecords hours).map (filterByName · "low")
        ≠ Overflow.stops.rollup? (answering "low" steepRecords) hours := by
  intro hours
  have hnone : Overflow.stops.rollup? steepRecords hours = none := by decide +kernel
  have hsome : (Overflow.stops.rollup? (answering "low" steepRecords) hours).isSome := by
    decide +kernel
  refine ⟨hnone, hsome, fun heq => ?_⟩
  rw [← heq, hnone] at hsome
  cases hsome

end HealthBoard
