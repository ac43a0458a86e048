/-
Which changes of the records a rollup does not notice.

A rollup asks the records two things: which one is the last of a model and an hour, and in what
order the names are first seen.  Lists that give the same answer to the first question have the same
models, cell for cell, and the second question only decides among models with as many successes.

Three small changes keep the first answer: a record goes that a later one of its model and hour
supersedes, a record without a name comes, and two neighbours of different models or hours change
places.  Nothing else does.  Every list can be cut down by such changes to the records that stand
and have a name, two lists that agree are left with the same ones, and no two of these have one
model and hour, so that they can be brought into any order.
-/
import HealthBoard.Proofs.Health.Ranking
import Mathlib.Logic.Relation

namespace HealthBoard
namespace Rollup

/-- Two lists have the same last record for each hour of each model with a name. -/
def Agree (records records' : List HourlyRecord) : Prop :=
  ∀ place : String × Int64, place.1 ≠ "" →
    (filed records place).getLast? = (filed records' place).getLast?

/-- The names that occur in the first list are first seen in the same order in both. -/
def SeenAlike (records records' : List HourlyRecord) : Prop :=
  ∀ a ∈ records.map (·.modelName), ∀ b ∈ records.map (·.modelName), a ≠ "" → b ≠ "" →
    (firstSeen records a < firstSeen records b ↔ firstSeen records' a < firstSeen records' b)

/-- The same models, and in the same order if they differ in their successes. -/
structure SameFigures (models models' : List ModelRollup) : Prop where
  perm : models.Perm models'
  order : ∀ a b, a.totalSuccess ≠ b.totalSuccess →
    ([a, b].Sublist models ↔ [a, b].Sublist models')

/-- A change of a list of records in one place. -/
inductive Edit : List HourlyRecord → List HourlyRecord → Prop where
  /-- A record goes that a later one of its model and hour supersedes. -/
  | drop (before : List HourlyRecord) {r : HourlyRecord} {after : List HourlyRecord}
      (h : key r ∈ after.map key) : Edit (before ++ r :: after) (before ++ after)
  /-- A record without a name comes. -/
  | add (before after : List HourlyRecord) {r : HourlyRecord} (h : r.modelName = "") :
      Edit (before ++ after) (before ++ r :: after)
  /-- Two neighbours of different models or hours change places. -/
  | swap (before after : List HourlyRecord) {r s : HourlyRecord} (h : key r ≠ key s) :
      Edit (before ++ r :: s :: after) (before ++ s :: r :: after)

variable {records records' records'' : List HourlyRecord} {hours : List Int64}

/-! ### Lists that agree -/

theorem agree_iff : Agree records records' ↔
    ∀ name hour, name ≠ "" → latest? records name hour = latest? records' name hour := by
  simp only [latest?_eq_getLast?]
  exact Prod.forall

theorem Agree.symm (h : Agree records records') : Agree records' records :=
  fun place hname => (h place hname).symm

theorem Agree.trans (h : Agree records records') (h' : Agree records' records'') :
    Agree records records'' :=
  fun place hname => (h place hname).trans (h' place hname)

/-- A name occurs if some hour of it has a record. -/
theorem mem_modelNames_iff_latest? {name : String} :
    name ∈ modelNames records ↔ name ≠ "" ∧ ∃ hour, latest? records name hour ≠ none := by
  rw [mem_modelNames]
  refine and_congr_right fun _ => ?_
  simp only [Ne, latest?_eq_none_iff, not_not, List.mem_map]
  constructor
  · rintro ⟨r, hr, rfl⟩
    exact ⟨r.hourStart, r, hr, rfl⟩
  · rintro ⟨hour, r, hr, hkey⟩
    exact ⟨r, hr, congrArg Prod.fst hkey⟩

theorem Agree.perm_modelNames (h : Agree records records') :
    (modelNames records).Perm (modelNames records') := by
  refine (List.perm_ext_iff_of_nodup (nodup_modelNames _) (nodup_modelNames _)).mpr fun name => ?_
  rw [mem_modelNames_iff_latest?, mem_modelNames_iff_latest?]
  refine and_congr_right fun hname => exists_congr fun hour => ?_
  rw [agree_iff.mp h name hour hname]

theorem Agree.ofModel_eq (h : Agree records records') {name : String} (hname : name ≠ "")
    (hours : List Int64) : ofModel records hours name = ofModel records' hours name :=
  ofModel_congr (fun hour => agree_iff.mp h name hour hname) hours

/-! ### What their rollups have in common -/

theorem Agree.perm_rollup (h : Agree records records') (hours : List Int64) :
    (rollup records hours).Perm (rollup records' hours) := by
  have hmodels : (modelNames records).map (ofModel records hours)
      = (modelNames records).map (ofModel records' hours) :=
    List.map_congr_left fun name hin => h.ofModel_eq (mem_modelNames.mp hin).1 hours
  rw [rollup_eq_mergeSort, rollup_eq_mergeSort, hmodels]
  exact (List.mergeSort_perm _ _).trans
    ((h.perm_modelNames.map _).trans (List.mergeSort_perm _ _).symm)

theorem Agree.sameFigures (h : Agree records records') (hours : List Int64) :
    SameFigures (rollup records hours) (rollup records' hours) where
  perm := h.perm_rollup hours
  order := by
    intro a b hne
    have hne' : a.totalSuccess.toInt ≠ b.totalSuccess.toInt := fun h => hne (Int64.toInt_inj.mp h)
    have horder : Precedes records a b ↔ Precedes records' a b := by
      unfold Precedes
      simp only [hne', false_and]
    rw [pair_sublist_rollup_iff, pair_sublist_rollup_iff, horder, (h.perm_rollup hours).mem_iff,
      (h.perm_rollup hours).mem_iff]

/-- If the names are seen alike as well, then the models stand in the same order too. -/
theorem Agree.rollup_eq (h : Agree records records') (halike : SeenAlike records records')
    (hours : List Int64) : rollup records hours = rollup records' hours := by
  have hperm := h.perm_rollup hours
  refine eq_of_perm_of_precedes hperm (pairwise_rollup records hours) ?_
  refine (pairwise_rollup records' hours).imp_of_mem fun {a b} ha hb hab => ?_
  obtain ⟨hane, hain⟩ :=
    mem_modelNames.mp (modelName_of_mem_rollup (hperm.mem_iff.mpr ha))
  obtain ⟨hbne, hbin⟩ :=
    mem_modelNames.mp (modelName_of_mem_rollup (hperm.mem_iff.mpr hb))
  have hseen := halike _ (List.mem_map.mpr hain) _ (List.mem_map.mpr hbin) hane hbne
  unfold Precedes at hab ⊢
  rwa [hseen]

/-! ### Programs that may stop -/

/-- A program gets through both lists, or through neither. -/
theorem Agree.bears_iff (h : Agree records records') (o : Overflow) (hours : List Int64) :
    (∀ name ∈ modelNames records, o.BearsModel records hours name) ↔
      ∀ name ∈ modelNames records', o.BearsModel records' hours name := by
  refine forall_congr' fun name => ?_
  rw [h.perm_modelNames.mem_iff]
  refine forall_congr' fun hin => Overflow.bearsModel_congr fun hour => ?_
  exact agree_iff.mp h name hour (mem_modelNames.mp hin).1

theorem Agree.rollup?_rel (h : Agree records records') (o : Overflow) (hours : List Int64) :
    Option.Rel SameFigures (o.rollup? records hours) (o.rollup? records' hours) := by
  by_cases hall : ∀ name ∈ modelNames records, o.BearsModel records hours name
  · rw [Overflow.rollup?_of_bears hall, Overflow.rollup?_of_bears ((h.bears_iff o hours).mp hall)]
    exact .some (h.sameFigures hours)
  · have hnone := Overflow.rollup?_eq_none_iff_not.mpr hall
    have hnone' := Overflow.rollup?_eq_none_iff_not.mpr (mt (h.bears_iff o hours).mpr hall)
    rw [hnone, hnone']
    exact .none

theorem Agree.rollup?_eq (h : Agree records records') (halike : SeenAlike records records')
    (o : Overflow) (hours : List Int64) : o.rollup? records hours = o.rollup? records' hours := by
  refine Option.ext fun models => ?_
  rw [Overflow.rollup?_eq_some_iff, Overflow.rollup?_eq_some_iff, h.bears_iff o hours,
    h.rollup_eq halike hours]

/-! ### Edits keep what is looked up -/

theorem Edit.agree (h : Edit records records') : Agree records records' := by
  refine agree_iff.mpr fun name hour hname => ?_
  cases h with
  | drop before h => rw [latest?_append, latest?_append, latest?_cons_of_mem h]
  | @add before after r h =>
      have hne : key r ≠ (name, hour) := fun hc => hname ((congrArg Prod.fst hc).symm.trans h)
      rw [latest?_append, latest?_append, latest?_cons_of_ne hne]
  | @swap before after r s h =>
      rw [latest?_append, latest?_append]
      congr 1
      by_cases hr : key r = (name, hour)
      · have hs : key s ≠ (name, hour) := fun hc => h (hr.trans hc.symm)
        rw [latest?_cons_of_ne hs, latest?_cons, latest?_cons_of_ne hs, latest?_cons]
      · rw [latest?_cons_of_ne hr, latest?_cons s after, latest?_cons s (r :: after),
          latest?_cons_of_ne hr]

theorem agree_of_edits (h : Relation.EqvGen Edit records records') : Agree records records' := by
  induction h with
  | rel _ _ hedit => exact hedit.agree
  | refl _ => exact fun _ _ => rfl
  | symm _ _ _ ih => exact ih.symm
  | trans _ _ _ _ _ ih ih' => exact ih.trans ih'

/-! ### Lists that agree can be edited into each other -/

/-- An edit can be made behind another record. -/
theorem Edit.cons (r : HourlyRecord) (h : Edit records records') :
    Edit (r :: records) (r :: records') := by
  cases h with
  | drop before h => exact Edit.drop (r :: before) h
  | add before after h => exact Edit.add (r :: before) after h
  | swap before after h => exact Edit.swap (r :: before) after h

theorem edits_cons (r : HourlyRecord) (h : Relation.EqvGen Edit records records') :
    Relation.EqvGen Edit (r :: records) (r :: records') := by
  induction h with
  | rel _ _ hedit => exact .rel _ _ (hedit.cons r)
  | refl _ => exact .refl _
  | symm _ _ _ ih => exact .symm _ _ ih
  | trans _ _ _ _ _ ih ih' => exact .trans _ _ _ ih ih'

/-- The records that stand and have a name. -/
def effective (records : List HourlyRecord) : List HourlyRecord :=
  (standing records).filter fun r => r.modelName ≠ ""

/-- A list can be edited down to its effective records, one record after the other. -/
theorem edits_effective (records : List HourlyRecord) :
    Relation.EqvGen Edit records (effective records) := by
  induction records with
  | nil => exact .refl _
  | cons r rest ih =>
      by_cases hsuperseded : key r ∈ rest.map key
      · have hsame : effective (r :: rest) = effective rest := by
          unfold effective
          rw [standing, if_pos hsuperseded]
        rw [hsame]
        exact .trans _ _ _ (.rel _ _ (Edit.drop [] hsuperseded)) ih
      · by_cases hname : r.modelName = ""
        · have hsame : effective (r :: rest) = effective rest := by
            unfold effective
            rw [standing, if_neg hsuperseded, List.filter_cons_of_neg (by simpa using hname)]
          rw [hsame]
          exact .trans _ _ _ (.symm _ _ (.rel _ _ (Edit.add [] rest hname))) ih
        · have hkept : effective (r :: rest) = r :: effective rest := by
            unfold effective
            rw [standing, if_neg hsuperseded, List.filter_cons_of_pos (by simpa using hname)]
          rw [hkept]
          exact edits_cons r ih

/-- Records of pairwise different models or hours can be brought into any order. -/
theorem edits_of_perm (h : records.Perm records') (hnodup : (records.map key).Nodup) :
    Relation.EqvGen Edit records records' := by
  induction h with
  | nil => exact .refl _
  | cons r _ ih => exact edits_cons r (ih (List.nodup_cons.mp hnodup).2)
  | swap r s rest =>
      refine .rel _ _ (Edit.swap [] rest fun hc => ?_)
      exact (List.nodup_cons.mp hnodup).1 (hc ▸ List.mem_cons_self)
  | trans hfirst _ ih ih' =>
      exact .trans _ _ _ (ih hnodup) (ih' ((hfirst.map key).nodup_iff.mp hnodup))

theorem nodup_keys_effective (records : List HourlyRecord) :
    ((effective records).map key).Nodup :=
  (nodup_keys_standing records).sublist (List.filter_sublist.map key)

theorem mem_effective {r : HourlyRecord} :
    r ∈ effective records ↔
      latest? records r.modelName r.hourStart = some r ∧ r.modelName ≠ "" := by
  unfold effective
  rw [List.mem_filter, mem_standing, decide_eq_true_iff]

theorem Agree.perm_effective (h : Agree records records') :
    (effective records).Perm (effective records') := by
  refine (List.perm_ext_iff_of_nodup (nodup_keys_effective _).of_map
    (nodup_keys_effective _).of_map).mpr fun r => ?_
  rw [mem_effective, mem_effective]
  refine and_congr_left fun hname => ?_
  rw [agree_iff.mp h _ _ hname]

theorem Agree.edits (h : Agree records records') : Relation.EqvGen Edit records records' :=
  .trans _ _ _ (edits_effective records)
    (.trans _ _ _ (edits_of_perm h.perm_effective (nodup_keys_effective records))
      (.symm _ _ (edits_effective records')))

end Rollup

open Rollup

/--
**Only the last record of a model and an hour matters.**  Two lists of records that agree on these
have the same models, and the models stand in the same order but for those with as many successes;
if the names are first seen in the same order as well, the rollups are equal.  A program that goes
on has a rollup of any list, and one that stops at a sum stops with both lists or with neither.  The
lists that agree are those that can be edited into each other: by dropping records that are
superseded, by adding records without a name, and by letting neighbours of different models or hours
change places.  In particular no order of records that all differ in model or hour is better than
another.
-/
theorem rollup_agreement (o : Overflow) (records records' : List HourlyRecord)
    (hours : List Int64) :
    Overflow.wraps.rollup? records hours = some (rollup records hours) ∧
      (Agree records records' →
        Option.Rel SameFigures (o.rollup? records hours) (o.rollup? records' hours)) ∧
      (Agree records records' → SeenAlike records records' →
        o.rollup? records hours = o.rollup? records' hours) ∧
      (Agree records records' ↔ Relation.EqvGen Edit records records') ∧
      (records.Perm records' → (records.map key).Nodup →
        Option.Rel SameFigures (o.rollup? records hours) (o.rollup? records' hours)) :=
  ⟨Overflow.rollup?_wraps records hours, fun h => h.rollup?_rel o hours,
    fun h halike => h.rollup?_eq halike o hours, ⟨Agree.edits, agree_of_edits⟩,
    fun hperm hnodup => (agree_of_edits (edits_of_perm hperm hnodup)).rollup?_rel o hours⟩

/-- One record is superseded, and one has no name. -/
def mixedRecords : List HourlyRecord :=
  [⟨"slow", 0, 1, 2, 10, 10, 20, 0.5⟩, ⟨"", 0, 9, 9, 90, 0, 90, 1⟩,
    ⟨"fast", 0, 2, 2, 20, 0, 20, 1⟩, ⟨"slow", 0, 2, 4, 20, 20, 40, 0.5⟩]

/-- The same without these two, and in another order. -/
def tidyRecords : List HourlyRecord :=
  [⟨"slow", 0, 2, 4, 20, 20, 40, 0.5⟩, ⟨"fast", 0, 2, 2, 20, 0, 20, 1⟩]

theorem rollup_agreement_mixed :
    Relation.EqvGen Edit mixedRecords tidyRecords ∧ Agree mixedRecords tidyRecords ∧
      SeenAlike mixedRecords tidyRecords ∧ tidyRecords.Perm tidyRecords.reverse ∧
      (tidyRecords.map key).Nodup ∧ ∀ o : Overflow,
        Option.Rel SameFigures (o.rollup? mixedRecords [0]) (o.rollup? tidyRecords [0]) ∧
        o.rollup? mixedRecords [0] = o.rollup? tidyRecords [0] ∧
        Option.Rel SameFigures (o.rollup? tidyRecords [0]) (o.rollup? tidyRecords.reverse [0]) := by
  have hedits : Relation.EqvGen Edit mixedRecords tidyRecords := by
    refine .trans _ _ _ (.rel _ _ (Edit.drop [] (by decide))) ?_
    refine .trans _ _ _ (.symm _ _ (.rel _ _ (Edit.add [] _ rfl))) ?_
    exact .rel _ _ (Edit.swap [] [] (by decide))
  have halike : SeenAlike mixedRecords tidyRecords := by
    have hnames : ∀ a ∈ mixedRecords.map (·.modelName), a ≠ "" → a = "slow" ∨ a = "fast" := by
      decide
    intro a ha b hb hane hbne
    rcases hnames a ha hane with rfl | rfl <;> rcases hnames b hb hbne with rfl | rfl <;> decide
  have hperm : tidyRecords.Perm tidyRecords.reverse := (List.reverse_perm _).symm
  have hnodup : (tidyRecords.map key).Nodup := by decide
  have hagree : Agree mixedRecords tidyRecords := agree_of_edits hedits
  refine ⟨hedits, hagree, halike, hperm, hnodup, fun o => ?_⟩
  obtain ⟨-, hfigures, hequal, -, -⟩ := rollup_agreement o mixedRecords tidyRecords [0]
  exact ⟨hfigures hagree, hequal hagree halike,
    (rollup_agreement o tidyRecords tidyRecords.reverse [0]).2.2.2.2 hperm hnodup⟩

end HealthBoard
