/-
What a program that may stop has in common with one that goes on.

A program that stops at a sum computes nothing else than one that goes on: if it gets to the end, it
has the same models and the same figures.  So a result about the functions that go on holds of
either program, once it is said when there is an answer at all, and that is said here of each of
them: a rollup gets to the end if the sums of each of its models do, a summary if the two sums over
the models do, and a trend if its five sums over the records do.
-/
import HealthBoard.Health.Summary
import HealthBoard.Proofs.Health.Rollup
import HealthBoard.Proofs.Health.Sum

namespace HealthBoard

/-- Steps that may fail, of which it is known what each gives and when. -/
theorem mapM_eq_some_iff {α β : Type} {f : α → Option β} {g : α → β} {p : α → Prop}
    (h : ∀ a b, f a = some b ↔ b = g a ∧ p a) (l : List α) :
    ∀ {l' : List β}, l.mapM f = some l' ↔ l' = l.map g ∧ ∀ a ∈ l, p a := by
  induction l with
  | nil => simp [eq_comm]
  | cons a rest ih =>
      intro l'
      simp only [List.mapM_cons, Option.bind_eq_bind, Option.bind_eq_some_iff, h, ih,
        Option.pure_def, Option.some.injEq, List.map_cons, List.forall_mem_cons]
      constructor
      · rintro ⟨b, ⟨rfl, ha⟩, bs, ⟨rfl, hrest⟩, rfl⟩
        exact ⟨rfl, ha, hrest⟩
      · rintro ⟨rfl, ha, hrest⟩
        exact ⟨g a, ⟨rfl, ha⟩, _, ⟨rfl, hrest⟩, rfl⟩

namespace Overflow

open Rollup (counts modelNames mem_modelNames)

variable {o : Overflow} {records : List HourlyRecord} {hours : List Int64} {name : String}

/-! ### Rollups -/

/-- The program gets to the end of both sums of a model. -/
structure BearsModel (o : Overflow) (records : List HourlyRecord) (hours : List Int64)
    (name : String) : Prop where
  success : o.Bears (counts (·.successSlices) records hours name)
  slices : o.Bears (counts (·.totalSlices) records hours name)

/-- Nothing but the records that count for a model is added up for it. -/
theorem bearsModel_congr {records' : List HourlyRecord}
    (h : ∀ hour, Rollup.latest? records name hour = Rollup.latest? records' name hour) :
    o.BearsModel records hours name ↔ o.BearsModel records' hours name := by
  have hcounts := Rollup.counts_congr h
  constructor
  · rintro ⟨hsuccess, hslices⟩
    exact ⟨hcounts _ hours ▸ hsuccess, hcounts _ hours ▸ hslices⟩
  · rintro ⟨hsuccess, hslices⟩
    exact ⟨(hcounts _ hours).symm ▸ hsuccess, (hcounts _ hours).symm ▸ hslices⟩

theorem ofModel?_eq_some_iff {m : ModelRollup} :
    o.ofModel? records hours name = some m ↔
      m = Rollup.ofModel records hours name ∧ o.BearsModel records hours name := by
  unfold ofModel?
  simp only [Option.bind_eq_bind, Option.bind_eq_some_iff, total?_eq_some_iff, Option.pure_def,
    Option.some.injEq]
  constructor
  · rintro ⟨success, ⟨rfl, hsuccess⟩, slices, ⟨rfl, hslices⟩, rfl⟩
    exact ⟨rfl, hsuccess, hslices⟩
  · rintro ⟨rfl, hsuccess, hslices⟩
    exact ⟨_, ⟨rfl, hsuccess⟩, _, ⟨rfl, hslices⟩, rfl⟩

/-- **A rollup is the same in both programs**, if there is one. -/
theorem rollup?_eq_some_iff {models : List ModelRollup} :
    o.rollup? records hours = some models ↔
      models = rollup records hours ∧
        ∀ name ∈ modelNames records, o.BearsModel records hours name := by
  unfold rollup?
  simp only [Option.bind_eq_bind, Option.bind_eq_some_iff, Option.pure_def, Option.some.injEq,
    mapM_eq_some_iff (fun _ _ => ofModel?_eq_some_iff)]
  constructor
  · rintro ⟨models, ⟨rfl, hall⟩, rfl⟩
    exact ⟨rfl, hall⟩
  · rintro ⟨rfl, hall⟩
    exact ⟨_, ⟨rfl, hall⟩, rfl⟩

theorem rollup?_of_bears (h : ∀ name ∈ modelNames records, o.BearsModel records hours name) :
    o.rollup? records hours = some (rollup records hours) :=
  rollup?_eq_some_iff.mpr ⟨rfl, h⟩

theorem bearsModel_wraps (records : List HourlyRecord) (hours : List Int64) (name : String) :
    wraps.BearsModel records hours name :=
  ⟨bears_wraps _, bears_wraps _⟩

theorem rollup?_wraps (records : List HourlyRecord) (hours : List Int64) :
    wraps.rollup? records hours = some (rollup records hours) :=
  rollup?_of_bears fun name _ => bearsModel_wraps records hours name

/-- A rollup is missing if the program stops in the sums of some model. -/
theorem rollup?_eq_none_iff_not :
    o.rollup? records hours = none ↔
      ¬ ∀ name ∈ modelNames records, o.BearsModel records hours name := by
  rw [Option.eq_none_iff_forall_ne_some]
  simp only [Ne, rollup?_eq_some_iff]
  exact ⟨fun h hbears => h _ ⟨rfl, hbears⟩, fun h models hmodels => h hmodels.2⟩

theorem rollup?_eq_none_iff :
    o.rollup? records hours = none ↔
      ∃ name, name ≠ "" ∧ (∃ r ∈ records, r.modelName = name) ∧
        ¬ o.BearsModel records hours name := by
  rw [rollup?_eq_none_iff_not]
  simp only [not_forall, mem_modelNames, exists_prop, and_assoc]

/-! ### Figures -/

theorem summarize?_eq_some_iff {models : List ModelRollup} {thresholds : ThresholdSet}
    {s : Summary} :
    o.summarize? models thresholds = some s ↔
      s = summarize models thresholds ∧ o.Bears (models.map (·.totalSuccess)) ∧
        o.Bears (models.map (·.totalSlices)) := by
  unfold summarize?
  simp only [Option.bind_eq_bind, Option.bind_eq_some_iff, total?_eq_some_iff, Option.pure_def,
    Option.some.injEq]
  constructor
  · rintro ⟨success, ⟨rfl, hsuccess⟩, slices, ⟨rfl, hslices⟩, rfl⟩
    exact ⟨rfl, hsuccess, hslices⟩
  · rintro ⟨rfl, hsuccess, hslices⟩
    exact ⟨_, ⟨rfl, hsuccess⟩, _, ⟨rfl, hslices⟩, rfl⟩

/-- The program gets to the end of the five sums of a trend. -/
structure BearsTrend (o : Overflow) (records : List HourlyRecord) : Prop where
  success : o.Bears (records.map (·.successSlices))
  slices : o.Bears (records.map (·.totalSlices))
  requests : o.Bears (records.map (·.totalRequests))
  errors : o.Bears (records.map (·.errorRequests))
  successes : o.Bears (records.map (·.successRequests))

theorem trend?_eq_some_iff {t : TrendStats} :
    o.trend? records = some t ↔ t = .ofRecords records ∧ o.BearsTrend records := by
  unfold trend? TrendStats.ofRecords
  split
  · rename_i hempty
    have hnil : records = [] := by simpa using hempty
    subst hnil
    have hbears : o.Bears [] := fun _ front hfront => by
      rw [List.prefix_nil.mp hfront]
      exact fits_toInt 0
    simp only [Option.some.injEq, eq_comm, iff_self_and]
    exact fun _ => ⟨hbears, hbears, hbears, hbears, hbears⟩
  · simp only [Option.bind_eq_bind, Option.bind_eq_some_iff, total?_eq_some_iff, Option.pure_def,
      Option.some.injEq]
    constructor
    · rintro ⟨success, ⟨rfl, hsuccess⟩, slices, ⟨rfl, hslices⟩, requests, ⟨rfl, hrequests⟩,
        errors, ⟨rfl, herrors⟩, successes, ⟨rfl, hsuccesses⟩, rfl⟩
      exact ⟨rfl, hsuccess, hslices, hrequests, herrors, hsuccesses⟩
    · rintro ⟨rfl, hsuccess, hslices, hrequests, herrors, hsuccesses⟩
      exact ⟨_, ⟨rfl, hsuccess⟩, _, ⟨rfl, hslices⟩, _, ⟨rfl, hrequests⟩, _, ⟨rfl, herrors⟩, _,
        ⟨rfl, hsuccesses⟩, rfl⟩

theorem trend?_eq_none_iff : o.trend? records = none ↔ ¬ o.BearsTrend records := by
  rw [Option.eq_none_iff_forall_ne_some]
  simp only [Ne, trend?_eq_some_iff]
  exact ⟨fun h hbears => h _ ⟨rfl, hbears⟩, fun h t ht => h ht.2⟩

theorem bearsTrend_wraps (records : List HourlyRecord) : wraps.BearsTrend records :=
  ⟨bears_wraps _, bears_wraps _, bears_wraps _, bears_wraps _, bears_wraps _⟩

end Overflow

/-- Two hours of one model with so many slices that their sum does not fit. -/
def heavyRecords : List HourlyRecord :=
  [⟨"m", 0, 4611686018427387904, 4611686018427387904, 0, 0, 0, 1⟩,
    ⟨"m", 3600, 4611686018427387904, 4611686018427387904, 0, 0, 0, 1⟩]

end HealthBoard
