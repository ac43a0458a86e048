/-
Which payloads are lists of models.

The program tries one form after the other and takes the first that fits.  `Holds` says the same
of the payload itself: there is a list of texts in one of four places, and in none of the places
before it.  That the two agree is `ofJson_eq_ok_iff`, so what is said about payloads elsewhere need
not know in which order anything is tried.
-/
import HealthBoard.Gateway.ModelList
import Mathlib.Data.List.Basic

namespace HealthBoard.ModelList

/-- Names as a list of texts. -/
def listOf (names : List String) : Json := .arr (names.map .str)

/-- A member of the payload is a list of texts. -/
def Wraps (name : String) (payload : Json) (names : List String) : Prop :=
  payload.member? name = some (listOf names)

/-- The payload is an object whose members are lists of texts, one for each group. -/
def Groups (payload : Json) (groups : List (List String)) : Prop :=
  ∃ members, payload = .obj members ∧ members.map Prod.snd = groups.map listOf

/-- The payload holds the names, in the first of the four forms that it has. -/
inductive Holds (payload : Json) : List String → Prop where
  | plain {names : List String} (h : payload = listOf names) : Holds payload names
  | models {names : List String} (h : Wraps "models" payload names) : Holds payload names
  | data {names : List String} (hmodels : ∀ names, ¬ Wraps "models" payload names)
      (h : Wraps "data" payload names) : Holds payload names
  | grouped {groups : List (List String)} (hmodels : ∀ names, ¬ Wraps "models" payload names)
      (hdata : ∀ names, ¬ Wraps "data" payload names) (h : Groups payload groups) :
      Holds payload (merged groups)

/-! ### Each form by itself -/

/-- The text of an item, named so that the proofs can talk about it. -/
private def text? : Json → Option String
  | .str s => some s
  | _ => none

private theorem text?_eq_some_iff {item : Json} {name : String} :
    text? item = some name ↔ item = .str name := by
  cases item <;> simp [text?]

private theorem mapM_text?_eq_some_iff {items : List Json} :
    ∀ {names : List String}, items.mapM text? = some names ↔ items = names.map .str := by
  induction items with
  | nil => intro names; cases names <;> simp
  | cons item rest ih =>
      intro names
      rw [List.mapM_cons]
      simp only [bind, Option.bind_eq_some_iff, text?_eq_some_iff, ih, pure, Option.some.injEq]
      constructor
      · rintro ⟨name, rfl, names, rfl, rfl⟩
        rfl
      · intro h
        obtain ⟨name, names, rfl, hitem, hrest⟩ := List.map_eq_cons_iff.mp h.symm
        exact ⟨name, hitem.symm, names, hrest.symm, rfl⟩

theorem texts?_eq_some_iff {payload : Json} {names : List String} :
    texts? payload = some names ↔ payload = listOf names := by
  cases payload with
  | arr items =>
      show items.mapM text? = some names ↔ _
      rw [mapM_text?_eq_some_iff]
      simp [listOf]
  | _ => simp [texts?, listOf]

theorem wrapped?_eq_some_iff {name : String} {payload : Json} {names : List String} :
    wrapped? name payload = some names ↔ Wraps name payload names := by
  unfold wrapped? Wraps
  simp only [bind, Option.bind_eq_some_iff, texts?_eq_some_iff]
  exact ⟨fun ⟨_, hmember, heq⟩ => heq ▸ hmember, fun hmember => ⟨_, hmember, rfl⟩⟩

private theorem mapM_texts?_eq_some_iff {members : List (String × Json)} :
    ∀ {groups : List (List String)}, (members.mapM fun member => texts? member.2) = some groups ↔
      members.map Prod.snd = groups.map listOf := by
  induction members with
  | nil => intro groups; cases groups <;> simp
  | cons member rest ih =>
      intro groups
      rw [List.mapM_cons]
      simp only [bind, Option.bind_eq_some_iff, texts?_eq_some_iff, ih, pure, Option.some.injEq,
        List.map_cons]
      constructor
      · rintro ⟨names, hfirst, groups, hrest, rfl⟩
        rw [List.map_cons, hfirst, hrest]
      · intro h
        obtain ⟨names, groups, rfl, hfirst, hrest⟩ := List.map_eq_cons_iff.mp h.symm
        exact ⟨names, hfirst.symm, groups, hrest.symm, rfl⟩

theorem groups?_eq_some_iff {payload : Json} {groups : List (List String)} :
    groups? payload = some groups ↔ Groups payload groups := by
  cases payload with
  | obj members =>
      show (members.mapM fun member => texts? member.2) = some groups ↔ _
      rw [mapM_texts?_eq_some_iff]
      simp [Groups]
  | _ => simp [groups?, Groups]

/-! ### The first form that fits -/

private theorem wrapped?_eq_none_iff {name : String} {payload : Json} :
    wrapped? name payload = none ↔ ∀ names, ¬ Wraps name payload names := by
  simp only [Option.eq_none_iff_forall_ne_some, Ne, wrapped?_eq_some_iff]

private theorem Wraps.texts?_eq_none {name : String} {payload : Json} {names : List String}
    (h : Wraps name payload names) : texts? payload = none := by
  cases payload with
  | obj members => rfl
  | _ => cases h

private theorem Groups.texts?_eq_none {payload : Json} {groups : List (List String)}
    (h : Groups payload groups) : texts? payload = none := by
  obtain ⟨members, rfl, -⟩ := h
  rfl

private theorem orElse_eq_some_iff {α : Type} {first next : Option α} {a : α} :
    (first <|> next) = some a ↔ first = some a ∨ first = none ∧ next = some a := by
  cases first <;> simp

private theorem ofJson_eq_ok_iff_firstOf {payload : Json} {names : List String} :
    ofJson payload = .ok names ↔
      (texts? payload <|> wrapped? "models" payload <|> wrapped? "data" payload <|>
        (groups? payload).map merged) = some names := by
  unfold ofJson
  split
  · rename_i h
    rw [h, Except.ok.injEq, Option.some.injEq]
  · rename_i h
    rw [h]
    simp

/-- **A payload is a list of models exactly if it has one of the forms, and the first counts.** -/
theorem ofJson_eq_ok_iff {payload : Json} {names : List String} :
    ofJson payload = .ok names ↔ Holds payload names := by
  simp only [ofJson_eq_ok_iff_firstOf, orElse_eq_some_iff, Option.map_eq_some_iff,
    texts?_eq_some_iff, wrapped?_eq_none_iff, wrapped?_eq_some_iff, groups?_eq_some_iff]
  constructor
  · rintro (h | ⟨-, h | ⟨hmodels, h | ⟨hdata, groups, h, rfl⟩⟩⟩)
    · exact .plain h
    · exact .models h
    · exact .data hmodels h
    · exact .grouped hmodels hdata h
  · rintro (h | h | ⟨hmodels, h⟩ | ⟨hmodels, hdata, h⟩)
    · exact .inl h
    · exact .inr ⟨h.texts?_eq_none, .inl h⟩
    · exact .inr ⟨h.texts?_eq_none, .inr ⟨hmodels, .inl h⟩⟩
    · exact .inr ⟨h.texts?_eq_none, .inr ⟨hmodels, .inr ⟨hdata, _, h, rfl⟩⟩⟩

end HealthBoard.ModelList
