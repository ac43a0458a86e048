/-
In what order the models of a rollup stand.

The models are made in the order in which their names are first seen and then sorted by their
successes.  The sort is stable, so it moves a model only past models with fewer successes, and among
equals the first order is left.  `Precedes` is the order that comes out of both.  No two different
names are first seen at one place, so it is strict, and there is one list only of given models that
stands in this order.  That is what two rollups are compared by: if they have the same models and
the same order, they are the same.
-/
import HealthBoard.Proofs.Health.Overflow
import Mathlib.Data.List.Sort

namespace HealthBoard

/--
A stable sort keeps the order that it finds between equals.  The induction is on the list: the first
element comes out after some that have to stand before it, and before all others.
-/
theorem pairwise_mergeSort_of_pairwise {α : Type} {le : α → α → Bool} {before : α → α → Prop}
    (htrans : ∀ a b c, le a b = true → le b c = true → le a c = true)
    (htotal : ∀ a b, (le a b || le b a) = true) {l : List α} (h : l.Pairwise before) :
    (l.mergeSort le).Pairwise fun a b => le a b = true ∧ (le b a = true → before a b) := by
  induction l with
  | nil => simp
  | cons x rest ih =>
      obtain ⟨front, back, hsorted, hrest, hfront⟩ := List.mergeSort_cons htrans htotal x rest
      have hle := List.pairwise_mergeSort htrans htotal (x :: rest)
      have hold := ih h.of_cons
      rw [hsorted] at hle ⊢
      rw [hrest] at hold
      have hbefore : ∀ y ∈ back, before x y := by
        intro y hy
        have hin : y ∈ rest.mergeSort le := by
          rw [hrest]
          exact List.mem_append_right front hy
        exact List.rel_of_pairwise_cons h (List.mem_mergeSort.mp hin)
      refine List.pairwise_append.mpr ⟨(List.pairwise_append.mp hold).1, ?_, ?_⟩
      · refine List.pairwise_cons.mpr ⟨fun y hy => ⟨?_, fun _ => hbefore y hy⟩,
          (List.pairwise_append.mp hold).2.1⟩
        exact List.rel_of_pairwise_cons (List.pairwise_append.mp hle).2.1 hy
      · intro y hy z hz
        rcases List.mem_cons.mp hz with rfl | hz'
        · have hgreater : le z y = false := by simpa using hfront y hy
          have hless : le y z = true := by simpa [hgreater] using htotal y z
          exact ⟨hless, fun hc => absurd hc (by simp [hgreater])⟩
        · exact (List.pairwise_append.mp hold).2.2 y hy z hz'

namespace Rollup

/-- A model stands before another: it has more successes, or as many and is seen earlier. -/
def Precedes (records : List HourlyRecord) (a b : ModelRollup) : Prop :=
  b.totalSuccess.toInt < a.totalSuccess.toInt ∨
    (a.totalSuccess.toInt = b.totalSuccess.toInt ∧
      firstSeen records a.modelName < firstSeen records b.modelName)

theorem Precedes.asymm {records : List HourlyRecord} {a b : ModelRollup}
    (h : Precedes records a b) : ¬ Precedes records b a := by
  unfold Precedes at *
  omega

/-- What a rollup is sorted by: a model may stand before another that has no more successes. -/
def mayPrecede (a b : ModelRollup) : Bool := b.totalSuccess.toInt ≤ a.totalSuccess.toInt

theorem mayPrecede_trans (a b c : ModelRollup) (hab : mayPrecede a b = true)
    (hbc : mayPrecede b c = true) : mayPrecede a c = true := by
  unfold mayPrecede at *
  simp only [decide_eq_true_eq] at *
  omega

theorem mayPrecede_total (a b : ModelRollup) : (mayPrecede a b || mayPrecede b a) = true := by
  unfold mayPrecede
  simp only [Bool.or_eq_true, decide_eq_true_eq]
  omega

theorem rollup_eq_mergeSort (records : List HourlyRecord) (hours : List Int64) :
    rollup records hours
      = ((modelNames records).map (ofModel records hours)).mergeSort mayPrecede := rfl

/-- Models that come in the order in which their names are seen are sorted into `Precedes`. -/
theorem pairwise_mergeSort_precedes {records : List HourlyRecord} {models : List ModelRollup}
    (h : models.Pairwise fun a b =>
      firstSeen records a.modelName < firstSeen records b.modelName) :
    (models.mergeSort mayPrecede).Pairwise (Precedes records) := by
  refine (pairwise_mergeSort_of_pairwise mayPrecede_trans mayPrecede_total h).imp ?_
  intro a b hab
  unfold mayPrecede at hab
  simp only [decide_eq_true_eq] at hab
  rcases Int.lt_or_eq_of_le hab.1 with hlt | heq
  · exact Or.inl hlt
  · exact Or.inr ⟨heq.symm, hab.2 (Int.le_of_eq heq.symm)⟩

theorem pairwise_rollup (records : List HourlyRecord) (hours : List Int64) :
    (rollup records hours).Pairwise (Precedes records) := by
  rw [rollup_eq_mergeSort]
  refine pairwise_mergeSort_precedes (List.pairwise_map.mpr ?_)
  exact pairwise_modelNames records

/-- Of two models of a rollup, one stands before the other if it precedes it. -/
theorem pair_sublist_rollup_iff {records : List HourlyRecord} {hours : List Int64}
    {a b : ModelRollup} :
    [a, b].Sublist (rollup records hours) ↔
      a ∈ rollup records hours ∧ b ∈ rollup records hours ∧ Precedes records a b := by
  have horder := pairwise_rollup records hours
  constructor
  · intro h
    refine ⟨h.subset (by simp), h.subset (by simp), ?_⟩
    simpa using horder.sublist h
  · rintro ⟨ha, hb, hab⟩
    obtain ⟨front, back, hsplit⟩ := List.append_of_mem ha
    rw [hsplit] at horder hb ⊢
    rcases List.mem_append.mp hb with hfront | hb'
    · have hba : Precedes records b a :=
        (List.pairwise_append.mp horder).2.2 b hfront a List.mem_cons_self
      exact absurd hba hab.asymm
    · rcases List.mem_cons.mp hb' with rfl | hback
      · exact absurd hab hab.asymm
      · exact ((List.singleton_sublist.mpr hback).cons_cons a).trans
          (List.sublist_append_right front _)

/-- **Given models stand in order in one way only.** -/
theorem eq_of_perm_of_precedes {records : List HourlyRecord} {models models' : List ModelRollup}
    (hperm : models.Perm models') (h : models.Pairwise (Precedes records))
    (h' : models'.Pairwise (Precedes records)) : models = models' :=
  hperm.eq_of_pairwise (fun _ _ _ _ hab hba => absurd hba hab.asymm) h h'

/-- The names of the models are those that the records have, in the order of the rollup. -/
theorem perm_names (records : List HourlyRecord) (hours : List Int64) :
    ((rollup records hours).map (·.modelName)).Perm (modelNames records) := by
  have hnames : ((modelNames records).map (ofModel records hours)).map (·.modelName)
      = modelNames records := by
    rw [List.map_map]
    exact List.map_id _
  exact ((List.mergeSort_perm _ _).map _).trans (.of_eq hnames)

end Rollup

open Rollup

/--
**A rollup has each name once, and stands in the order of successes.**  There is one unless the
program stops in the sums of a model, and a program that goes on never does.  The names are those
that occur among the records, also if none of their hours is asked for, without the empty one.  Of
two models the one with more successes stands first, and of equals the one whose name is first seen
earlier.
-/
theorem rollup_ranked (o : Overflow) (records : List HourlyRecord) (hours : List Int64) :
    (o.rollup? records hours = none ↔ ∃ name, name ≠ "" ∧ (∃ r ∈ records, r.modelName = name) ∧
      ¬ o.BearsModel records hours name) ∧
    (∀ name, Overflow.wraps.BearsModel records hours name) ∧
    ∀ models, o.rollup? records hours = some models →
      (models.map (·.modelName)).Nodup ∧
      (∀ name, name ∈ models.map (·.modelName) ↔
        name ≠ "" ∧ ∃ r ∈ records, r.modelName = name) ∧
      models.Pairwise (fun a b => b.totalSuccess.toInt ≤ a.totalSuccess.toInt) ∧
      models.Pairwise fun a b => a.totalSuccess = b.totalSuccess →
        (records.map (·.modelName)).idxOf a.modelName
          < (records.map (·.modelName)).idxOf b.modelName := by
  refine ⟨Overflow.rollup?_eq_none_iff, Overflow.bearsModel_wraps records hours, ?_⟩
  intro models hmodels
  obtain ⟨rfl, -⟩ := Overflow.rollup?_eq_some_iff.mp hmodels
  have hnames := perm_names records hours
  have horder := pairwise_rollup records hours
  refine ⟨hnames.nodup_iff.mpr (nodup_modelNames records),
    fun name => hnames.mem_iff.trans mem_modelNames, horder.imp fun {a b} h => ?_,
    horder.imp fun {a b} h heq => ?_⟩
  · unfold Precedes at h
    omega
  · unfold Precedes firstSeen at h
    rw [heq] at h
    omega

/-- The successes of one model leave 64 bits on the way and come back; there is another one. -/
def steepRecords : List HourlyRecord :=
  [⟨"high", 0, 4611686018427387904, 1, 0, 0, 0, 1⟩,
    ⟨"high", 3600, 4611686018427387904, 1, 0, 0, 0, 1⟩,
    ⟨"high", 7200, -4611686018427387904, 1, 0, 0, 0, 1⟩, ⟨"low", 0, 1, 1, 0, 0, 0, 1⟩]

theorem rollup_ranked_steep :
    let hours : List Int64 := [0, 3600, 7200]
    Overflow.wraps.rollup? steepRecords hours = some (rollup steepRecords hours) ∧
      ((rollup steepRecords hours).map (·.modelName)).Nodup ∧
      "low" ∈ (rollup steepRecords hours).map (·.modelName) ∧
      (rollup steepRecords hours).Pairwise (fun a b => b.totalSuccess.toInt ≤ a.totalSuccess.toInt)
      := by
  intro hours
  have hmodels : Overflow.wraps.rollup? steepRecords hours = some (rollup steepRecords hours) :=
    Overflow.rollup?_wraps steepRecords hours
  obtain ⟨-, -, hranked⟩ := rollup_ranked .wraps steepRecords hours
  obtain ⟨hnodup, hnames, horder, -⟩ := hranked _ hmodels
  exact ⟨hmodels, hnodup, (hnames "low").mpr (by decide), horder⟩

/-- A program that stops at a sum has no models here, although the sums fit in the end. -/
theorem rollup_ranked_stops :
    let hours : List Int64 := [0, 3600, 7200]
    (∀ name ∈ ["high", "low"], name ≠ "" ∧ ∃ r ∈ steepRecords, r.modelName = name) ∧
      (∀ name ∈ ["high", "low"],
        Fits (exactTotal (counts (·.successSlices) steepRecords hours name))) ∧
      ¬ ∃ models, Overflow.stops.rollup? steepRecords hours = some models ∧
        ∀ name ∈ ["high", "low"], name ∈ models.map (·.modelName) := by
  intro hours
  have hnone : Overflow.stops.rollup? steepRecords hours = none := by decide +kernel
  refine ⟨by decide, by decide, ?_⟩
  rintro ⟨models, hmodels, -⟩
  rw [hnone] at hmodels
  cases hmodels

end HealthBoard
