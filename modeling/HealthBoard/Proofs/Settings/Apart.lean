/-
Settings that differ in one place.

What a single setting is matters to that setting only: whatever else is laid over it or read beside
it is the same with another value there.  `Apart` is the invariant.  Two tables have the same
members but for one, which is a table in both, and these two have the same members but for one.
Laying a setting anywhere else preserves that (`Apart.put`), and so does laying many (`Apart.lay`);
a section that is read from either table has the same fields but for the one (`ApartAt.get?_eq`).

It takes tables to be apart.  A setting in the place of one of the two, or a position in it, would
make an end of them, and so would one in the place of the member itself; `Passes` leaves these out.
-/
import HealthBoard.Proofs.Except
import HealthBoard.Settings.Section

namespace HealthBoard

namespace Setting

def IsTable (s : Setting) : Prop := ∃ origin members, s = .table origin members

/-- Two tables with the same members but for one, which both have; those two are related. -/
structure ApartAt (name : String) (Related : Setting → Setting → Prop) (s s' : Setting) : Prop where
  table : s.IsTable
  table' : s'.IsTable
  others : ∀ other, other ≠ name → s.member? other = s'.member? other
  there : ∃ x x', s.member? name = some x ∧ s'.member? name = some x' ∧ Related x x'

/-- The two differ at most in a member of a member, which is `x` in one and `x'` in the other. -/
def Apart (outer inner : String) (x x' : Setting) : Setting → Setting → Prop :=
  ApartAt outer (ApartAt inner fun s s' => s = x ∧ s' = x')

/-- A path that does not lead to a member of a member, nor to anything around it or in it. -/
inductive Passes (outer inner : String) : List Step → Prop
  | aside {name : String} {rest : List Step} (h : name ≠ outer) :
      Passes outer inner (.child name :: rest)
  | beside {name : String} {rest : List Step} (h : name ≠ inner) :
      Passes outer inner (.child outer :: .child name :: rest)

variable {outer inner name other : String} {Related : Setting → Setting → Prop}
  {s s' x x' value : Setting}

/-! ### Members -/

theorem member?_withMember :
    (s.withMember name value).member? other = if other = name then some value
      else s.member? other := by
  split
  · rename_i heq
    subst heq
    cases s with
    | table origin members => exact lookup_upsert_self _ _ _
    | list origin items => exact lookup_upsert_self _ _ []
    | scalar origin v => exact lookup_upsert_self _ _ []
  · rename_i hne
    cases s with
    | table origin members => exact lookup_upsert_ne hne _ _
    | list origin items => exact lookup_upsert_ne hne _ []
    | scalar origin v => exact lookup_upsert_ne hne _ []

theorem isTable_withMember : (s.withMember name value).IsTable := by
  cases s <;> exact ⟨_, _, rfl⟩

theorem apartAt_withMember (hothers : ∀ other, other ≠ name → s.member? other = s'.member? other)
    (h : Related x x') : ApartAt name Related (s.withMember name x) (s'.withMember name x') where
  table := isTable_withMember
  table' := isTable_withMember
  others := by
    intro other hother
    rw [member?_withMember, member?_withMember, if_neg hother, if_neg hother]
    exact hothers other hother
  there := by
    refine ⟨x, x', ?_, ?_, h⟩
    · rw [member?_withMember, if_pos rfl]
    · rw [member?_withMember, if_pos rfl]

theorem ApartAt.withMember (h : ApartAt name Related s s') (hname : other ≠ name) :
    ApartAt name Related (s.withMember other value) (s'.withMember other value) where
  table := isTable_withMember
  table' := isTable_withMember
  others := by
    intro another hanother
    rw [member?_withMember, member?_withMember, h.others another hanother]
  there := by
    rw [member?_withMember, member?_withMember, if_neg hname.symm, if_neg hname.symm]
    exact h.there

/-! ### Laying settings -/

theorem lay_cons (s : Setting) (p : String × Setting) (settings : List (String × Setting)) :
    s.lay (p :: settings) = (put p.2 (steps p.1) s).lay settings := rfl

theorem lay_append (s : Setting) (front back : List (String × Setting)) :
    s.lay (front ++ back) = (s.lay front).lay back := by
  unfold lay
  exact List.foldl_append

/-- What is put under a name hangs on what was there before, and on nothing else. -/
theorem exists_put_child (value : Setting) (name : String) (rest : List Step) :
    ∃ f : Option Setting → Setting, ∀ s : Setting,
      put value (.child name :: rest) s = s.withMember name (f (s.member? name)) := by
  cases rest with
  | nil => exact ⟨fun before => value.laidOn before, fun _ => rfl⟩
  | cons step rest =>
      exact ⟨fun before => put value (step :: rest) (before.getD nothing), fun _ => rfl⟩

theorem ApartAt.put (h : ApartAt name Related s s') (hname : other ≠ name) (rest : List Step) :
    ApartAt name Related (put value (.child other :: rest) s)
      (Setting.put value (.child other :: rest) s') := by
  obtain ⟨f, hf⟩ := exists_put_child value other rest
  rw [hf, hf, h.others other hname]
  exact h.withMember hname

/-- **A setting that is laid elsewhere leaves the difference where it is.** -/
theorem Apart.put {path : List Step} (h : Apart outer inner x x' s s')
    (hpath : Passes outer inner path) :
    Apart outer inner x x' (put value path s) (Setting.put value path s') := by
  cases hpath with
  | aside hname => exact ApartAt.put h hname _
  | beside hname =>
      obtain ⟨u, u', hu, hu', hrelated⟩ := h.there
      show ApartAt _ _ (s.withMember outer (Setting.put value _ _))
        (s'.withMember outer (Setting.put value _ _))
      rw [hu, hu']
      exact apartAt_withMember h.others (hrelated.put hname _)

theorem Apart.lay (h : Apart outer inner x x' s s') {settings : List (String × Setting)}
    (hpaths : ∀ p ∈ settings, Passes outer inner (steps p.1)) :
    Apart outer inner x x' (s.lay settings) (s'.lay settings) := by
  induction settings generalizing s s' with
  | nil => exact h
  | cons p rest ih =>
      obtain ⟨hp, hrest⟩ := List.forall_mem_cons.mp hpaths
      exact ih (h.put hp) hrest

/-- Where the difference comes from: two values without parts, put in the same place. -/
theorem apart_put (outer inner : String) (s : Setting) (origin origin' : Option String)
    (v v' : Scalar) :
    Apart outer inner (.scalar origin v) (.scalar origin' v')
      (put (.scalar origin v) [.child outer, .child inner] s)
      (put (.scalar origin' v') [.child outer, .child inner] s) :=
  apartAt_withMember (fun _ _ => rfl) (apartAt_withMember (fun _ _ => rfl) ⟨rfl, rfl⟩)

end Setting

/-! ### Reading sections -/

namespace Section

variable {record name : String} {fields : List String} {s s' x : Setting} {α : Type}
  {convert : Setting → Except SettingsFault α}

theorem ofSetting_table (h : s.IsTable) :
    Section.ofSetting record fields s = .ok ⟨record, fields, s⟩ := by
  obtain ⟨origin, members, rfl⟩ := h
  rfl

theorem find?_table (h : s.IsTable) :
    (⟨record, fields, s⟩ : Section).find? name = (s.member? name).map (.key name, ·) := by
  obtain ⟨origin, members, rfl⟩ := h
  rfl

/-- The field that a table has is read if it can be converted. -/
theorem get?_eq_ok_iff (h : s.IsTable) (hx : s.member? name = some x) {value : Option α} :
    (⟨record, fields, s⟩ : Section).get? name convert = .ok value ↔
      ∃ a, convert x = .ok a ∧ value = some a := by
  unfold get?
  rw [find?_table h, hx]
  cases hconvert : convert x with
  | error fault => simp [hconvert]
  | ok a => simp [hconvert, eq_comm]

/-- A field that has to be given is what is given. -/
theorem require_eq_ok_iff {part : Section} {value : Option α} {a : α} :
    part.require name value = .ok a ↔ value = some a := by
  constructor
  · intro h
    cases value with
    | some b => exact congrArg some (Except.ok.inj h)
    | none =>
        simp only [require] at h
        split at h <;> cases h
  · rintro rfl
    rfl

end Section

/-- Every other field of two tables that differ in one is read the same. -/
theorem Setting.ApartAt.get?_eq {record name other : String} {fields : List String}
    {Related : Setting → Setting → Prop} {s s' : Setting} {α : Type}
    {convert : Setting → Except SettingsFault α} (h : ApartAt name Related s s')
    (hother : other ≠ name) :
    (⟨record, fields, s⟩ : Section).get? other convert
      = (⟨record, fields, s'⟩ : Section).get? other convert := by
  unfold Section.get?
  rw [Section.find?_table h.table, Section.find?_table h.table', h.others other hother]

end HealthBoard
