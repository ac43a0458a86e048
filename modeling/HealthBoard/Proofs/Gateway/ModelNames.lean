/-
Which names a list of models gives.

A plain list and a wrapped one give their names as they are.  Groups are put together: `Merges` says
what has to come out, and as a list is told by its order and its members, nothing else can.  The
names are put in one at a time, so what is said of the whole list is what one insertion keeps.

Groups can be called anything, and two names mean something else before they mean a group: a list
under `models` or under `data` is taken for a wrapped list, and then it is the whole answer.  So
groups are put together only if none of them has such a name, and otherwise what the other groups
hold is lost, unless the one that was taken for a wrapper happens to hold it as well.
-/
import HealthBoard.Proofs.Gateway.ModelList
import HealthBoard.Proofs.Text.ByteOrder
import HealthBoard.Proofs.Text.Trim

namespace HealthBoard

namespace ModelList

/-! ### Names put in one at a time -/

theorem mem_insertName {name other : String} {names : List String} :
    other ∈ insertName name names ↔ other = name ∨ other ∈ names := by
  induction names with
  | nil => simp [insertName]
  | cons first rest ih =>
      unfold insertName
      split
      · rename_i h
        rw [beq_iff_eq.mp h, List.mem_cons]
        exact ⟨.inr, fun hin => hin.elim .inl id⟩
      · split
        · exact List.mem_cons
        · rw [List.mem_cons, ih, List.mem_cons]
          exact or_left_comm

/-- A name is put where it belongs. -/
theorem pairwise_insertName {name : String} {names : List String}
    (h : names.Pairwise (· < ·)) : (insertName name names).Pairwise (· < ·) := by
  induction names with
  | nil => exact List.pairwise_singleton _ _
  | cons first rest ih =>
      obtain ⟨hfirst, hrest⟩ := List.pairwise_cons.mp h
      unfold insertName
      split
      · exact h
      · rename_i hne
        split
        · rename_i hlt
          refine List.pairwise_cons.mpr ⟨fun other hin => ?_, h⟩
          rcases List.mem_cons.mp hin with rfl | hin
          · exact hlt
          · exact String.lt_trans hlt (hfirst other hin)
        · rename_i hnlt
          have hgreater : first < name := by
            refine Decidable.byContradiction fun hnot => hne (beq_iff_eq.mpr ?_)
            exact String.le_antisymm hnot hnlt
          refine List.pairwise_cons.mpr ⟨fun other hin => ?_, ih hrest⟩
          rcases mem_insertName.mp hin with rfl | hin
          · exact hgreater
          · exact hfirst other hin

theorem mem_insertNames {name : String} {more : List String} :
    ∀ {names : List String},
      name ∈ more.foldl (fun names n => insertName n names) names ↔ name ∈ more ∨ name ∈ names := by
  induction more with
  | nil => intro names; simp
  | cons next rest ih =>
      intro names
      rw [List.foldl_cons, ih, mem_insertName, List.mem_cons, or_left_comm, or_assoc]

theorem pairwise_insertNames {more : List String} :
    ∀ {names : List String}, names.Pairwise (· < ·) →
      (more.foldl (fun names n => insertName n names) names).Pairwise (· < ·) := by
  induction more with
  | nil => intro names h; exact h
  | cons next rest ih => intro names h; exact ih (pairwise_insertName h)

/-- The names of groups, put together. -/
structure Merges (groups : List (List String)) (names : List String) : Prop where
  /-- Each name comes before those after it by its bytes, so none stands twice. -/
  ascending : names.Pairwise Text.Before
  /-- They are the names of the groups that are more than white space. -/
  mem_iff : ∀ name, name ∈ names ↔ (∃ group ∈ groups, name ∈ group) ∧ Text.trim name ≠ ""

/-- **Groups are put together.** -/
theorem merges_merged (groups : List (List String)) : Merges groups (merged groups) where
  ascending := (pairwise_insertNames List.Pairwise.nil).imp Text.before_iff_lt.mpr
  mem_iff name := by
    unfold merged
    rw [mem_insertNames, List.mem_filter, List.mem_flatten, Ne, Text.trim_eq_empty_iff]
    simp

/-! ### What is a list of models -/

/-- The payload has one of the forms of a list of models, whatever else it may have. -/
inductive HasForm (payload : Json) : Prop
  | plain {names : List String} (h : payload = listOf names)
  | models {names : List String} (h : Wraps "models" payload names)
  | data {names : List String} (h : Wraps "data" payload names)
  | grouped {groups : List (List String)} (h : Groups payload groups)

/-- What comes of reading a payload as a list of models. -/
structure Recognized (payload : Json) (answer : Except GatewayFault (List String)) : Prop where
  ok_iff : (∃ names, answer = .ok names) ↔ HasForm payload
  refused : ¬ HasForm payload → answer = .error (.shape "unrecognized model list shape")
  plain : ∀ names, payload = listOf names → answer = .ok names
  models : ∀ names, Wraps "models" payload names → answer = .ok names
  data : (∀ names, ¬ Wraps "models" payload names) →
    ∀ names, Wraps "data" payload names → answer = .ok names
  grouped : (∀ names, ¬ Wraps "models" payload names) → (∀ names, ¬ Wraps "data" payload names) →
    ∀ groups, Groups payload groups → ∃ names, answer = .ok names ∧ Merges groups names

theorem Holds.hasForm {payload : Json} {names : List String} (h : Holds payload names) :
    HasForm payload := by
  cases h with
  | plain h => exact .plain h
  | models h => exact .models h
  | data _ h => exact .data h
  | grouped _ _ h => exact .grouped h

/-- A payload that has a form has a first one. -/
theorem HasForm.exists_holds {payload : Json} (h : HasForm payload) :
    ∃ names, Holds payload names := by
  by_cases hmodels : ∃ names, Wraps "models" payload names
  · obtain ⟨names, hmodels⟩ := hmodels
    exact ⟨names, .models hmodels⟩
  by_cases hdata : ∃ names, Wraps "data" payload names
  · obtain ⟨names, hdata⟩ := hdata
    exact ⟨names, .data (not_exists.mp hmodels) hdata⟩
  cases h with
  | plain h => exact ⟨_, .plain h⟩
  | models h => exact absurd ⟨_, h⟩ hmodels
  | data h => exact absurd ⟨_, h⟩ hdata
  | grouped h => exact ⟨_, .grouped (not_exists.mp hmodels) (not_exists.mp hdata) h⟩

theorem exists_ok_iff_hasForm {payload : Json} :
    (∃ names, ofJson payload = .ok names) ↔ HasForm payload :=
  ⟨fun ⟨_, h⟩ => (ofJson_eq_ok_iff.mp h).hasForm,
    fun h => h.exists_holds.imp fun _ => ofJson_eq_ok_iff.mpr⟩

/-- Groups without a member that is taken for a wrapped list are put together. -/
theorem ofJson_of_groups {payload : Json} (hmodels : ∀ names, ¬ Wraps "models" payload names)
    (hdata : ∀ names, ¬ Wraps "data" payload names) {groups : List (List String)}
    (h : Groups payload groups) : ∃ names, ofJson payload = .ok names ∧ Merges groups names :=
  ⟨_, ofJson_eq_ok_iff.mpr (.grouped hmodels hdata h), merges_merged groups⟩

/-- There is one complaint about all that is no list of models. -/
theorem ofJson_of_not_ok {payload : Json} (h : ¬ ∃ names, ofJson payload = .ok names) :
    ofJson payload = .error (.shape "unrecognized model list shape") := by
  unfold ofJson at h ⊢
  split
  · rename_i names hnames
    rw [hnames] at h
    exact absurd ⟨names, rfl⟩ h
  · rfl

/--
**A payload is a list of models exactly if it has one of four forms, and the first one counts.**  A
plain or a wrapped list is taken verbatim; groups are put together, in the order of the bytes, each
name once and without the blank ones.
-/
theorem ofJson_recognized (payload : Json) : Recognized payload (ofJson payload) where
  ok_iff := exists_ok_iff_hasForm
  refused h := ofJson_of_not_ok (mt exists_ok_iff_hasForm.mp h)
  plain _ h := ofJson_eq_ok_iff.mpr (.plain h)
  models _ h := ofJson_eq_ok_iff.mpr (.models h)
  data hmodels _ h := ofJson_eq_ok_iff.mpr (.data hmodels h)
  grouped hmodels hdata _ h := ofJson_of_groups hmodels hdata h

/-- A list within a list is none of the forms: a wrapper is an object and nothing else. -/
theorem nested_list_refused :
    ¬ ∀ payload : Json, (∃ names, ofJson payload = .ok names) ↔
      HasForm payload ∨ ∃ names, payload = .arr [listOf names] := by
  intro h
  obtain ⟨names, hnames⟩ := (h (.arr [listOf ["a", "b"]])).mpr (.inr ⟨_, rfl⟩)
  cases hnames

/-! ### Groups by their names -/

/-- Groups of names as a payload. -/
def groupedBy (groups : List (String × List String)) : Json :=
  .obj (groups.map fun group => (group.1, listOf group.2))

/-- No name of a group is missing, but for blank ones. -/
def Keeps (groups : List (String × List String)) (names : List String) : Prop :=
  ∀ group ∈ groups, ∀ name ∈ group.2, Text.trim name ≠ "" → name ∈ names

/-- The group that is taken for a wrapped list, if one is called like that. -/
def wrapper? (groups : List (String × List String)) : Option (List String) :=
  (groups.lookup "models").or (groups.lookup "data")

variable {groups : List (String × List String)}

private theorem listOf_inj {names other : List String} :
    listOf names = listOf other ↔ names = other := by
  unfold listOf
  rw [Json.arr.injEq, List.map_inj_right fun _ _ h => Json.str.inj h]

private theorem lookup_groupedBy (name : String) :
    (groups.map fun group => (group.1, listOf group.2)).lookup name
      = (groups.lookup name).map listOf := by
  induction groups with
  | nil => rfl
  | cons first rest ih =>
      rw [List.map_cons, List.lookup_cons, List.lookup_cons, ih]
      split <;> rfl

/-- A group is a wrapped list for whoever looks for its name. -/
theorem wraps_groupedBy_iff {name : String} {names : List String} :
    Wraps name (groupedBy groups) names ↔ groups.lookup name = some names := by
  show (groups.map fun group => (group.1, listOf group.2)).lookup name = some (listOf names) ↔ _
  rw [lookup_groupedBy, Option.map_eq_some_iff]
  simp only [listOf_inj, exists_eq_right]

theorem not_wraps_groupedBy {name : String} (h : groups.lookup name = none) (names : List String) :
    ¬ Wraps name (groupedBy groups) names := by
  rw [wraps_groupedBy_iff, h]
  exact nofun

theorem groups_groupedBy : Groups (groupedBy groups) (groups.map Prod.snd) :=
  ⟨_, rfl, by rw [List.map_map, List.map_map]; rfl⟩

/-- A group that is taken for a wrapped list is the whole answer. -/
theorem ofJson_of_wrapper {list : List String} (h : wrapper? groups = some list) :
    ofJson (groupedBy groups) = .ok list := by
  rw [ofJson_eq_ok_iff]
  rcases Option.or_eq_some_iff.mp h with hmodels | ⟨hmodels, hdata⟩
  · exact .models (wraps_groupedBy_iff.mpr hmodels)
  · exact .data (not_wraps_groupedBy hmodels) (wraps_groupedBy_iff.mpr hdata)

/-- Groups that are taken for groups lose nothing. -/
theorem ofJson_of_no_wrapper (h : wrapper? groups = none) :
    ∃ names, ofJson (groupedBy groups) = .ok names ∧ Keeps groups names := by
  obtain ⟨hmodels, hdata⟩ := Option.or_eq_none_iff.mp h
  obtain ⟨names, hnames, hmerges⟩ := ofJson_of_groups (not_wraps_groupedBy hmodels)
    (not_wraps_groupedBy hdata) groups_groupedBy
  refine ⟨names, hnames, fun group hgroup name hname hblank => ?_⟩
  exact (hmerges.mem_iff name).mpr ⟨⟨group.2, List.mem_map_of_mem hgroup, hname⟩, hblank⟩

/--
**Groups lose no name, unless one of them is called like a wrapper.**  Then the answer is the list
of that one alone, `models` before `data`, and it keeps what the others hold only if it holds that
too.
-/
theorem ofJson_groupedBy (groups : List (String × List String)) :
    ∃ names, ofJson (groupedBy groups) = .ok names ∧
      (∀ list, wrapper? groups = some list → names = list) ∧
      (Keeps groups names ↔ ∀ list, wrapper? groups = some list → Keeps groups list) := by
  cases h : wrapper? groups with
  | none =>
      obtain ⟨names, hnames, hkeeps⟩ := ofJson_of_no_wrapper h
      exact ⟨names, hnames, nofun, fun _ => nofun, fun _ => hkeeps⟩
  | some list =>
      refine ⟨list, ofJson_of_wrapper h, ?_, ?_, fun hall => hall list rfl⟩
      · rintro other hother
        exact Option.some.inj hother
      · rintro hkeeps other hother
        exact Option.some.inj hother ▸ hkeeps

/-- A vendor that is called `models` hides the models of the other one. -/
theorem ofJson_groupedBy_loses :
    ofJson (groupedBy [("models", ["a"]), ("openai", ["b"])]) = .ok ["a"] ∧
      ¬ Keeps [("models", ["a"]), ("openai", ["b"])] ["a"] := by
  refine ⟨rfl, fun hkeeps => ?_⟩
  have hlost : "b" ∈ ["a"] := hkeeps ("openai", ["b"]) (by simp) "b" (by simp) (by decide)
  exact absurd hlost (by decide)

end ModelList
end HealthBoard
