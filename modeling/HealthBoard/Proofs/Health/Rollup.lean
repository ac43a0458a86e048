/-
What the rollup reads off the records.

Two folds run over the records.  One collects the names in the order in which they are first seen,
and its list is what the rollup has a line for: no name twice, no empty one, and every other name
that occurs.  The other finds the record that counts for a model and an hour, which is the last one
that is filed there.  Seen from the front of the list, a record counts only if nothing after it has
the same model and hour; `standing` is the list of those, and it says without any search which
records a rollup is made of.

A model is made from the records that count for it and from nothing else.  So whatever leaves these
alone leaves the model alone, and `ofModel_congr` is how that is used.
-/
import HealthBoard.Health.Rollup
import Mathlib.Data.List.Induction
import Mathlib.Data.List.Nodup

namespace HealthBoard.Rollup

/-! ### Names -/

/-- One step of the fold over names, named so that the proofs can talk about it. -/
private def nameStep (names : List String) (r : HourlyRecord) : List String :=
  if r.modelName == "" || names.contains r.modelName then names else names ++ [r.modelName]

private theorem modelNames_fold (records : List HourlyRecord) :
    modelNames records = records.foldl nameStep [] := rfl

private theorem mem_nameStep {names : List String} {r : HourlyRecord} {name : String} :
    name ∈ nameStep names r ↔ name ∈ names ∨ (name ≠ "" ∧ r.modelName = name) := by
  unfold nameStep
  split
  · rename_i h
    have hold : r.modelName = "" ∨ r.modelName ∈ names := by simpa using h
    refine ⟨Or.inl, ?_⟩
    rintro (hin | ⟨hne, rfl⟩)
    · exact hin
    · exact hold.resolve_left hne
  · rename_i h
    have hnew : r.modelName ≠ "" ∧ r.modelName ∉ names := by simpa using h
    rw [List.mem_append, List.mem_singleton]
    constructor
    · rintro (hin | rfl)
      · exact Or.inl hin
      · exact Or.inr ⟨hnew.1, rfl⟩
    · rintro (hin | ⟨-, rfl⟩)
      · exact Or.inl hin
      · exact Or.inr rfl

private theorem mem_nameFold (records : List HourlyRecord) :
    ∀ (names : List String) (name : String),
      name ∈ records.foldl nameStep names ↔
        name ∈ names ∨ (name ≠ "" ∧ ∃ r ∈ records, r.modelName = name) := by
  induction records with
  | nil => intro names name; simp
  | cons r rest ih =>
      intro names name
      rw [List.foldl_cons, ih, mem_nameStep, List.exists_mem_cons_iff, or_assoc, and_or_left]

/-- **The lines of a rollup are the names that occur, without the empty one.** -/
theorem mem_modelNames {records : List HourlyRecord} {name : String} :
    name ∈ modelNames records ↔ name ≠ "" ∧ ∃ r ∈ records, r.modelName = name := by
  rw [modelNames_fold, mem_nameFold]
  simp

/-! ### The order of the names

A name is put at the end when it is first seen, so the inductions here split off the last record and
not the first: what it adds to the names of the records before it is one step of the fold.
-/

private theorem modelNames_concat (records : List HourlyRecord) (r : HourlyRecord) :
    modelNames (records ++ [r]) = nameStep (modelNames records) r := by
  rw [modelNames_fold, modelNames_fold, List.foldl_append]
  rfl

/-- How many records come before the first one of a name. -/
def firstSeen (records : List HourlyRecord) (name : String) : Nat :=
  (records.map (·.modelName)).idxOf name

private theorem firstSeen_concat_of_mem {records : List HourlyRecord} {name : String}
    (h : name ∈ modelNames records) (r : HourlyRecord) :
    firstSeen (records ++ [r]) name = firstSeen records name := by
  have hin : name ∈ records.map (·.modelName) := List.mem_map.mpr (mem_modelNames.mp h).2
  unfold firstSeen
  rw [List.map_append, List.idxOf_append_of_mem hin]

private theorem firstSeen_concat_lt {records : List HourlyRecord} {r : HourlyRecord}
    (hne : r.modelName ≠ "") (hnew : r.modelName ∉ modelNames records) {name : String}
    (h : name ∈ modelNames records) :
    firstSeen (records ++ [r]) name < firstSeen (records ++ [r]) r.modelName := by
  have hin : name ∈ records.map (·.modelName) := List.mem_map.mpr (mem_modelNames.mp h).2
  have hout : r.modelName ∉ records.map (·.modelName) := fun hc =>
    hnew (mem_modelNames.mpr ⟨hne, List.mem_map.mp hc⟩)
  have hlt := List.idxOf_lt_length_iff.mpr hin
  rw [firstSeen_concat_of_mem h]
  unfold firstSeen
  rw [List.map_append, List.idxOf_append_of_notMem hout]
  omega

/-- **The lines of a rollup stand in the order in which their names are first seen.** -/
theorem pairwise_modelNames (records : List HourlyRecord) :
    (modelNames records).Pairwise fun a b => firstSeen records a < firstSeen records b := by
  induction records using List.reverseRecOn with
  | nil => exact List.Pairwise.nil
  | append_singleton rest r ih =>
      have hkept : (modelNames rest).Pairwise fun a b =>
          firstSeen (rest ++ [r]) a < firstSeen (rest ++ [r]) b := by
        refine ih.imp_of_mem fun ha hb h => ?_
        rwa [firstSeen_concat_of_mem ha, firstSeen_concat_of_mem hb]
      rw [modelNames_concat]
      unfold nameStep
      split
      · exact hkept
      · rename_i h
        have hnew : r.modelName ≠ "" ∧ r.modelName ∉ modelNames rest := by simpa using h
        refine List.pairwise_append.mpr ⟨hkept, List.pairwise_singleton _ _, ?_⟩
        intro a ha b hb
        rw [List.mem_singleton.mp hb]
        exact firstSeen_concat_lt hnew.1 hnew.2 ha

/-- Names that are first seen at different places are different names. -/
theorem nodup_modelNames (records : List HourlyRecord) : (modelNames records).Nodup := by
  refine (pairwise_modelNames records).imp fun {a b} h hab => ?_
  rw [hab] at h
  exact Nat.lt_irrefl _ h

private theorem filter_nameStep_of_kept {keeps : String → Bool} {r : HourlyRecord}
    (h : keeps r.modelName = true) (names : List String) :
    (nameStep names r).filter keeps = nameStep (names.filter keeps) r := by
  have hsame : (names.filter keeps).contains r.modelName = names.contains r.modelName := by
    simp [List.contains_eq_mem, List.mem_filter, h]
  unfold nameStep
  rw [hsame]
  split
  · rfl
  · rw [List.filter_append, List.filter_singleton, h, cond_true]

private theorem filter_nameStep_of_left {keeps : String → Bool} {r : HourlyRecord}
    (h : keeps r.modelName = false) (names : List String) :
    (nameStep names r).filter keeps = names.filter keeps := by
  unfold nameStep
  split
  · rfl
  · rw [List.filter_append, List.filter_singleton, h, cond_false, List.append_nil]

/-- Leaving out the records of some names leaves out these names. -/
theorem modelNames_filter (keeps : String → Bool) (records : List HourlyRecord) :
    modelNames (records.filter fun r => keeps r.modelName) = (modelNames records).filter keeps := by
  induction records using List.reverseRecOn with
  | nil => rfl
  | append_singleton rest r ih =>
      rw [List.filter_append, modelNames_concat, List.filter_singleton]
      cases h : keeps r.modelName with
      | true => rw [cond_true, modelNames_concat, ih, filter_nameStep_of_kept h]
      | false => rw [cond_false, List.append_nil, ih, filter_nameStep_of_left h]

/-! ### The record that counts -/

/-- What a record is filed under: its model and its hour. -/
def key (r : HourlyRecord) : String × Int64 := (r.modelName, r.hourStart)

private theorem latest?_fold (name : String) (hour : Int64) (records : List HourlyRecord) :
    ∀ found : Option HourlyRecord,
      records.foldl (fun found r =>
        if r.modelName == name && r.hourStart == hour then some r else found) found
        = (latest? records name hour).or found := by
  induction records with
  | nil => intro found; rfl
  | cons r rest ih =>
      intro found
      unfold latest?
      rw [List.foldl_cons, List.foldl_cons, ih, ih]
      cases latest? rest name hour with
      | some s => rfl
      | none =>
          simp only [Option.none_or]
          split <;> rfl

/-- A record counts if none after it does. -/
theorem latest?_cons (r : HourlyRecord) (rest : List HourlyRecord) (name : String) (hour : Int64) :
    latest? (r :: rest) name hour
      = (latest? rest name hour).or (if key r = (name, hour) then some r else none) := by
  have hstep : (if r.modelName == name && r.hourStart == hour then some r else none)
      = if key r = (name, hour) then some r else none := by
    unfold key
    simp only [Bool.and_eq_true, beq_iff_eq, Prod.mk.injEq]
  rw [← hstep, ← latest?_fold]
  rfl

theorem latest?_eq_none_iff {records : List HourlyRecord} {name : String} {hour : Int64} :
    latest? records name hour = none ↔ (name, hour) ∉ records.map key := by
  induction records with
  | nil => simp [latest?]
  | cons r rest ih =>
      rw [latest?_cons, Option.or_eq_none_iff, ih, List.map_cons, List.mem_cons, not_or, and_comm]
      refine and_congr_left fun _ => ?_
      split
      · rename_i h
        simp [h]
      · rename_i h
        simpa using fun hc => h hc.symm

/-- A record that a later one supersedes counts nowhere. -/
theorem latest?_cons_of_mem {r : HourlyRecord} {rest : List HourlyRecord}
    (h : key r ∈ rest.map key) (name : String) (hour : Int64) :
    latest? (r :: rest) name hour = latest? rest name hour := by
  rw [latest?_cons]
  by_cases hk : key r = (name, hour)
  · have hsome : latest? rest name hour ≠ none := by
      rw [Ne, latest?_eq_none_iff, not_not, ← hk]
      exact h
    obtain ⟨s, hs⟩ := Option.ne_none_iff_exists'.mp hsome
    rw [hs, Option.some_or]
  · rw [if_neg hk, Option.or_none]

/-- A record counts for no other model and hour than its own. -/
theorem latest?_cons_of_ne {r : HourlyRecord} {name : String} {hour : Int64}
    (h : key r ≠ (name, hour)) (rest : List HourlyRecord) :
    latest? (r :: rest) name hour = latest? rest name hour := by
  rw [latest?_cons, if_neg h, Option.or_none]

/-- The records of a model and an hour, in their order. -/
def filed (records : List HourlyRecord) (place : String × Int64) : List HourlyRecord :=
  records.filter fun r => key r = place

/-- **The record that counts is the last one that is filed there.** -/
theorem latest?_eq_getLast? (records : List HourlyRecord) (name : String) (hour : Int64) :
    latest? records name hour = (filed records (name, hour)).getLast? := by
  induction records with
  | nil => rfl
  | cons r rest ih =>
      rw [latest?_cons, ih]
      unfold filed
      by_cases hk : key r = (name, hour)
      · rw [List.filter_cons_of_pos (by simpa using hk), List.getLast?_cons, if_pos hk]
        cases (rest.filter fun r => key r = (name, hour)).getLast? <;> rfl
      · rw [List.filter_cons_of_neg (by simpa using hk), if_neg hk, Option.or_none]

theorem key_of_latest? {records : List HourlyRecord} {name : String} {hour : Int64}
    {r : HourlyRecord} (h : latest? records name hour = some r) : key r = (name, hour) := by
  rw [latest?_eq_getLast?] at h
  simpa using (List.mem_filter.mp (List.mem_of_getLast? h)).2

/-- The first of two lists has a say only where the second has no record. -/
theorem latest?_append (before after : List HourlyRecord) (name : String) (hour : Int64) :
    latest? (before ++ after) name hour
      = (latest? after name hour).or (latest? before name hour) := by
  simp only [latest?_eq_getLast?, filed, List.filter_append, List.getLast?_append]

/-- The records of other names have no say at all. -/
theorem latest?_filter {keeps : String → Bool} {name : String} (h : keeps name = true)
    (records : List HourlyRecord) (hour : Int64) :
    latest? (records.filter fun r => keeps r.modelName) name hour = latest? records name hour := by
  rw [latest?_eq_getLast?, latest?_eq_getLast?]
  unfold filed
  rw [List.filter_filter]
  congr 1
  refine List.filter_congr fun r _ => ?_
  by_cases hk : key r = (name, hour)
  · have hname : r.modelName = name := congrArg Prod.fst hk
    simp [hk, hname, h]
  · simp [hk]

/-! ### The records that stand -/

/-- The records after which no other of the same model and hour comes. -/
def standing : List HourlyRecord → List HourlyRecord
  | [] => []
  | r :: rest => if key r ∈ rest.map key then standing rest else r :: standing rest

theorem standing_subset (records : List HourlyRecord) : standing records ⊆ records := by
  induction records with
  | nil => exact List.Subset.refl _
  | cons r rest ih =>
      unfold standing
      split
      · exact List.subset_cons_of_subset r ih
      · exact List.cons_subset_cons r ih

/-- The records that stand are those that count for their own model and hour. -/
theorem mem_standing {records : List HourlyRecord} {r : HourlyRecord} :
    r ∈ standing records ↔ latest? records r.modelName r.hourStart = some r := by
  induction records with
  | nil => simp [standing, latest?]
  | cons s rest ih =>
      unfold standing
      split
      · rename_i h
        rw [latest?_cons_of_mem h]
        exact ih
      · rename_i h
        rw [List.mem_cons, ih]
        by_cases hk : key s = (r.modelName, r.hourStart)
        · have hnone : latest? rest r.modelName r.hourStart = none := by
            rw [latest?_eq_none_iff, ← hk]
            exact h
          rw [latest?_cons, hnone, if_pos hk, Option.none_or, Option.some.injEq]
          simp [eq_comm]
        · rw [latest?_cons_of_ne hk]
          exact or_iff_right fun hc => hk (congrArg key hc.symm)

theorem nodup_keys_standing (records : List HourlyRecord) :
    ((standing records).map key).Nodup := by
  induction records with
  | nil => exact List.nodup_nil
  | cons r rest ih =>
      unfold standing
      split
      · exact ih
      · rename_i h
        rw [List.map_cons]
        refine List.nodup_cons.mpr ⟨fun hc => h ?_, ih⟩
        exact List.map_subset key (standing_subset rest) hc

/-! ### The record that is shown -/

/-- A record that a later one supersedes changes nothing. -/
theorem shown?_cons_of_mem {r : HourlyRecord} {rest : List HourlyRecord}
    (h : key r ∈ rest.map key) (name : String) (hour : Int64) :
    shown? (r :: rest) name hour = shown? rest name hour := by
  unfold shown?
  rw [latest?_cons_of_mem h]

/-- A record of a new model and hour is shown there if it has slices. -/
theorem shown?_cons_self {r : HourlyRecord} {rest : List HourlyRecord}
    (h : key r ∉ rest.map key) :
    shown? (r :: rest) r.modelName r.hourStart = if r.hasSlices then some r else none := by
  have hnone : latest? rest r.modelName r.hourStart = none := latest?_eq_none_iff.mpr h
  have hself : key r = (r.modelName, r.hourStart) := rfl
  unfold shown?
  rw [latest?_cons, hnone, Option.none_or, if_pos hself]
  rfl

/-- And it is shown nowhere else. -/
theorem shown?_cons_of_ne {r : HourlyRecord} {name : String} {hour : Int64}
    (h : key r ≠ (name, hour)) (rest : List HourlyRecord) :
    shown? (r :: rest) name hour = shown? rest name hour := by
  unfold shown?
  rw [latest?_cons_of_ne h]

theorem shown?_eq_none_of_not_mem {records : List HourlyRecord} {name : String} {hour : Int64}
    (h : (name, hour) ∉ records.map key) : shown? records name hour = none := by
  unfold shown?
  rw [latest?_eq_none_iff.mpr h]
  rfl

theorem shown?_eq_some_iff {records : List HourlyRecord} {name : String} {hour : Int64}
    {r : HourlyRecord} :
    shown? records name hour = some r ↔
      (filed records (name, hour)).getLast? = some r ∧ 0 < r.totalSlices.toInt := by
  unfold shown? HourlyRecord.hasSlices
  rw [Option.filter_eq_some_iff, latest?_eq_getLast?, decide_eq_true_iff]

theorem key_of_shown? {records : List HourlyRecord} {name : String} {hour : Int64}
    {r : HourlyRecord} (h : shown? records name hour = some r) : key r = (name, hour) :=
  key_of_latest? ((Option.filter_eq_some_iff.mp h).1)

theorem mem_of_shown? {records : List HourlyRecord} {name : String} {hour : Int64}
    {r : HourlyRecord} (h : shown? records name hour = some r) : r ∈ records :=
  (List.mem_filter.mp (List.mem_of_getLast? (shown?_eq_some_iff.mp h).1)).1

/-! ### The models of a rollup -/

/-- The rollup has one model for each of the names, made from the records that are shown for it. -/
theorem mem_rollup {records : List HourlyRecord} {hours : List Int64} {m : ModelRollup} :
    m ∈ rollup records hours ↔ ∃ name ∈ modelNames records, ofModel records hours name = m := by
  unfold rollup ranked
  rw [List.mem_mergeSort, List.mem_map]

theorem modelName_of_mem_rollup {records : List HourlyRecord} {hours : List Int64}
    {m : ModelRollup} (hm : m ∈ rollup records hours) : m.modelName ∈ modelNames records := by
  obtain ⟨name, hname, rfl⟩ := mem_rollup.mp hm
  exact hname

/-! ### What a model is made from -/

variable {records records' : List HourlyRecord} {name : String}

theorem shown?_congr (h : ∀ hour, latest? records name hour = latest? records' name hour) :
    shown? records name = shown? records' name := by
  funext hour
  unfold shown?
  rw [h hour]

theorem counts_congr (h : ∀ hour, latest? records name hour = latest? records' name hour)
    (count : HourlyRecord → Int64) (hours : List Int64) :
    counts count records hours name = counts count records' hours name := by
  unfold counts
  rw [shown?_congr h]

/-- Nothing but the records that count for it makes a model. -/
theorem ofModel_congr (h : ∀ hour, latest? records name hour = latest? records' name hour)
    (hours : List Int64) : ofModel records hours name = ofModel records' hours name := by
  unfold ofModel ofTotals
  rw [counts_congr h, counts_congr h, shown?_congr h]

end HealthBoard.Rollup
