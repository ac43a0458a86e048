/-
Other spellings of a record.

An object that is accepted may be written differently and mean the same (`Fields.Respelled`): its
members may stand in another order, a member of an unknown name may be added with any value, and a
member that gives a default may be left out, or put in where there is none.  A list may be written
instead (`Fields.Restated`), with the values in the order of the fields, and without the last ones
where they are defaults.

Each of these leaves what is told of the fields as it was, for each field alone; so any number of
them does, in any order.
-/
import HealthBoard.Proofs.Json.Told

namespace HealthBoard.Json

open Reader

variable {fs : Fields} {depth : Nat} {key : String} {m : Member} {members members' : List Member}
  {items : List Item}

namespace Fields

/-- This is the name of a field with a default, and the text gives the default. -/
def HoldsDefault (depth : Nat) (key : String) (text : List UInt8) : Fields → Prop
  | .done => False
  | .field name required s rest =>
    if key = name then required = false ∧ readAll? (s.read depth) text = some s.blank
    else rest.HoldsDefault depth key text

/-- The members may be written instead of those before: some liberties were taken, one by one. -/
inductive Respelled (fs : Fields) : List Member → List Member → Prop where
  | permute {members members' : List Member} (h : members.Perm members') :
      Respelled fs members members'
  | insert {key : String} {m : Member} {members : List Member} (hm : m.IsMember)
      (hkey : m.name? = some key) (hunknown : key ∉ fs.names) : Respelled fs members (m :: members)
  | leaveOut {key : String} {m : Member} {members : List Member} (hkey : m.name? = some key)
      (hdefault : fs.HoldsDefault innerDepth key m.item.value) : Respelled fs (m :: members) members
  | putIn {key : String} {m : Member} {members : List Member} (hm : m.IsMember)
      (hkey : m.name? = some key) (hdefault : fs.HoldsDefault innerDepth key m.item.value)
      (hnone : ∀ m ∈ members, m.name? ≠ some key) : Respelled fs members (m :: members)
  | trans {members members' members'' : List Member} (h : Respelled fs members members')
      (h' : Respelled fs members' members'') : Respelled fs members members''

/--
The items say what the members say, in the order of the fields.  Behind the last item there are only
fields with a default, and of these the members say no more than the default.
-/
def Restated (depth : Nat) (members : List Member) : Fields → List Item → Prop
  | .done, items => items = []
  | .field name required s rest, [] =>
    (required = false ∧ s.Told depth required (textsOf name members) s.blank) ∧
      rest.Restated depth members []
  | .field name required s rest, i :: more =>
    (∃ v, s.Told depth required (textsOf name members) v ∧
        readAll? (s.read depth) i.value = some v) ∧
      rest.Restated depth members more

/-! ### Each liberty -/

theorem Told.perm (hperm : members.Perm members') : ∀ {fs : Fields} {vs : fs.Values},
    fs.Told depth members vs → fs.Told depth members' vs
  | .done, _, _ => trivial
  | .field _ _ _ _, (_, _), h => ⟨h.1.perm (textsOf_perm hperm), h.2.perm hperm⟩

theorem told_cons_of_notMem {vs : fs.Values} (hkey : m.name? = some key)
    (hunknown : key ∉ fs.names) :
    fs.Told depth (m :: members) vs ↔ fs.Told depth members vs := by
  rw [told_iff_yields, told_iff_yields, yields_cons_of_notMem hkey hunknown]

/-- A member that gives a default tells what is told without it, if no other has its name. -/
theorem told_cons_of_default (hkey : m.name? = some key) : ∀ {fs : Fields} {vs : fs.Values},
    fs.names.Nodup → fs.HoldsDefault depth key m.item.value →
      (fs.Told depth (m :: members) vs ↔ textsOf key members = [] ∧ fs.Told depth members vs)
  | .done, _, _, hdefault => hdefault.elim
  | .field name required s rest, (v, vs), hnames, hdefault => by
    obtain ⟨hfresh, hnames⟩ := List.nodup_cons.mp hnames
    rw [HoldsDefault] at hdefault
    by_cases heq : key = name
    · subst heq
      rw [if_pos rfl] at hdefault
      obtain ⟨rfl, hblank⟩ := hdefault
      rw [Told, Told, textsOf_cons_of_eq hkey, told_cons_of_notMem hkey hfresh, Shape.told_cons,
        hblank]
      constructor
      · rintro ⟨⟨hnone, hv⟩, hrest⟩
        rw [hnone]
        exact ⟨rfl, (Option.some.inj hv).symm, hrest⟩
      · rintro ⟨hnone, htold, hrest⟩
        rw [hnone] at htold
        exact ⟨⟨hnone, congrArg some (Eq.symm htold)⟩, hrest⟩
    · rw [if_neg heq] at hdefault
      rw [Told, Told, textsOf_cons_of_ne (m.name?_ne hkey heq),
        told_cons_of_default hkey hnames hdefault, and_left_comm]

/-- Items that say what the members say give the values that the members tell. -/
theorem Restated.listed : ∀ {fs : Fields} {items : List Item} {vs : fs.Values},
    fs.Restated depth members items → fs.Told depth members vs → fs.Listed depth items vs
  | .done, _, _, h, _ => h
  | .field _ _ _ _, [], (_, _), ⟨⟨hdefault, hblank⟩, h⟩, ⟨htold, hrest⟩ =>
    ⟨⟨hdefault, htold.unique hblank⟩, h.listed hrest⟩
  | .field _ _ _ _, _ :: _, (_, _), ⟨⟨_, hv, hread⟩, h⟩, ⟨htold, hrest⟩ =>
    ⟨htold.unique hv ▸ hread, h.listed hrest⟩

/-! ### Any number of liberties -/

/-- The members are an object that is accepted for these values. -/
structure Spelled (fs : Fields) (members : List Member) (vs : fs.Values) : Prop where
  isMember : ∀ m ∈ members, m.IsMember
  named : ∀ m ∈ members, m.name?.isSome
  told : fs.Told innerDepth members vs

theorem Spelled.cons {vs : fs.Values} (h : fs.Spelled members vs) (hm : m.IsMember)
    (hkey : m.name? = some key) (htold : fs.Told innerDepth (m :: members) vs) :
    fs.Spelled (m :: members) vs := by
  refine ⟨List.forall_mem_cons.mpr ⟨hm, h.isMember⟩, List.forall_mem_cons.mpr ⟨?_, h.named⟩, htold⟩
  rw [hkey]
  rfl

/-- **What is spelled differently is accepted for the same values.** -/
theorem Respelled.spelled {vs : fs.Values} (hnames : fs.names.Nodup)
    (h : fs.Respelled members members') (hspelled : fs.Spelled members vs) :
    fs.Spelled members' vs := by
  induction h with
  | permute hperm =>
      refine ⟨fun m hm => ?_, fun m hm => ?_, hspelled.told.perm hperm⟩
      · exact hspelled.isMember m (hperm.mem_iff.mpr hm)
      · exact hspelled.named m (hperm.mem_iff.mpr hm)
  | insert hm hkey hunknown =>
      exact hspelled.cons hm hkey ((told_cons_of_notMem hkey hunknown).mpr hspelled.told)
  | leaveOut hkey hdefault =>
      exact ⟨(List.forall_mem_cons.mp hspelled.isMember).2,
        (List.forall_mem_cons.mp hspelled.named).2,
        ((told_cons_of_default hkey hnames hdefault).mp hspelled.told).2⟩
  | putIn hm hkey hdefault hnone =>
      exact hspelled.cons hm hkey
        ((told_cons_of_default hkey hnames hdefault).mpr ⟨textsOf_eq_nil hnone, hspelled.told⟩)
  | trans _ _ ih ih' => exact ih' (ih hspelled)

end Fields

end HealthBoard.Json
