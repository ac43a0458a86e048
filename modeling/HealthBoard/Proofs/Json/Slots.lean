/-
The slots of a record and the members of an object.

A record has a slot for every field, and the members of an object fill the slots in whatever order
they come.  Which text gives what is in which slot is said by the names alone (`Supplied`).  That
much suffices to read the members into the slots, as long as no name comes twice
(`Supplied.foldMembersFrom`), and that much is known of members that were read
(`filled_of_foldMembersFrom`); so a statement about objects is one about texts and names.
-/
import HealthBoard.Proofs.Json.Names

namespace HealthBoard.Json

open Reader

/-! ### Members for slots -/

/-- The text gives what is in the slot: the value is read from it, or there is neither. -/
def Shape.SuppliedPart (s : Shape) (depth : Nat) (slot : Option s.Value) :
    Option (List UInt8) → Prop
  | some start => ∃ v left, slot = some v ∧ s.read depth start = .ok v left ∧
      skipValue start = .ok () left
  | none => slot = none

namespace Fields

/-- The members give what is in the slots, each by the text that stands for its name. -/
def Supplied (depth : Nat) (members : List (String × List UInt8)) :
    (fs : Fields) → fs.Slots → Prop
  | .done, _ => True
  | .field name _ s rest, (slot, slots) =>
    s.SuppliedPart depth slot (members.lookup name) ∧ rest.Supplied depth members slots

/-- The slots whose names have been seen. -/
def only (seen : List String) : (fs : Fields) → fs.Slots → fs.Slots
  | .done, _ => ()
  | .field name _ _ rest, (slot, slots) =>
    (if name ∈ seen then slot else none, rest.only seen slots)

theorem only_nil : ∀ (fs : Fields) (slots : fs.Slots), fs.only [] slots = fs.unmet
  | .done, _ => rfl
  | .field _ _ _ rest, (slot, slots) => by
    rw [only, if_neg List.not_mem_nil, rest.only_nil slots]
    rfl

/-- Seeing the name of no slot changes nothing. -/
theorem only_cons_of_notMem {key : String} {seen : List String} : ∀ (fs : Fields)
    (slots : fs.Slots), key ∉ fs.names → fs.only (key :: seen) slots = fs.only seen slots
  | .done, _, _ => rfl
  | .field name _ _ rest, (slot, slots), hkey => by
    obtain ⟨hname, hrest⟩ : key ≠ name ∧ key ∉ rest.names := by
      simpa [names] using hkey
    have hseen : name ∈ key :: seen ↔ name ∈ seen := by
      simp [Ne.symm hname]
    simp only [only, hseen, rest.only_cons_of_notMem slots hrest]

/-- When all names have been seen, all slots are full that ever will be. -/
theorem Supplied.only_eq {depth : Nat} {members : List (String × List UInt8)}
    {seen : List String} (hseen : ∀ m ∈ members, m.1 ∈ seen) :
    ∀ {fs : Fields} {slots : fs.Slots}, fs.Supplied depth members slots →
      fs.only seen slots = slots
  | .done, _, _ => rfl
  | .field name _ _ rest, (slot, slots), h => by
    rw [only, h.2.only_eq hseen]
    cases hlookup : members.lookup name with
    | none =>
      have hslot := h.1
      rw [hlookup] at hslot
      rw [show slot = none from hslot, ite_self]
    | some text =>
      obtain ⟨front, back, hmembers, -⟩ := List.lookup_eq_some_iff.mp hlookup
      rw [if_pos (hseen (name, text) (by rw [hmembers]; simp))]

/-- A member goes into the slot of its name and no other. -/
theorem Supplied.readMember {depth : Nat} {members : List (String × List UInt8)} {key : String}
    {seen : List String} {named value after : List UInt8} (hkey : key ∉ seen)
    (hlookup : members.lookup key = some value) (hcolon : colon named = .ok () value)
    (hskip : skipValue value = .ok () after) :
    ∀ {fs : Fields} {slots : fs.Slots}, fs.names.Nodup → fs.Supplied depth members slots →
      fs.readMember key depth (fs.only seen slots) named
        = .ok (.ok (fs.only (key :: seen) slots)) after
  | .done, _, _, _ => by
    have hwithin : within (.key key) skipValue value = .ok () after := by
      rw [within, hskip]
    rw [Fields.readMember, bind_of_ok hcolon, bind_of_ok hwithin]
    rfl
  | .field name required s rest, (slot, slots), hnames, h => by
    obtain ⟨hname, hnames⟩ := List.nodup_cons.mp hnames
    by_cases heq : key = name
    · subst heq
      have hslot := h.1
      rw [hlookup] at hslot
      obtain ⟨v, left, rfl, hread, hpass⟩ := hslot
      cases hpass.symm.trans hskip
      have hwithin : within (.key key) (s.read depth) value = .ok v after := by
        rw [within, hread]
      rw [only, only, if_neg hkey, if_pos List.mem_cons_self, Fields.readMember,
        if_pos (by simp), if_neg (by simp), bind_of_ok hcolon, bind_of_ok hwithin,
        rest.only_cons_of_notMem slots hname]
      rfl
    · have hseen : name ∈ key :: seen ↔ name ∈ seen := by
        simp [Ne.symm heq]
      rw [only, only, Fields.readMember, if_neg (by simpa using heq),
        bind_of_ok (h.2.readMember hkey hlookup hcolon hskip hnames)]
      simp only [hseen]
      rfl

theorem lookup_of_mem {members : List (String × List UInt8)}
    (hdistinct : (members.map Prod.fst).Nodup) :
    ∀ m ∈ members, members.lookup m.1 = some m.2 := by
  induction members with
  | nil => intro m hm; cases hm
  | cons member members ih =>
    obtain ⟨name, value⟩ := member
    obtain ⟨hfresh, hdistinct⟩ := List.nodup_cons.mp hdistinct
    intro m hm
    rcases List.mem_cons.mp hm with rfl | hm
    · rw [List.lookup_cons, beq_self_eq_true]
    · have hne : m.1 ≠ name := fun heq => hfresh (List.mem_map.mpr ⟨m, hm, heq⟩)
      rw [List.lookup_cons, beq_eq_false_iff_ne.mpr hne]
      exact ih hdistinct m hm

/-- The members are read one by one, and each goes where it belongs. -/
theorem Supplied.foldMembersFrom {fs : Fields} {slots : fs.Slots} {depth : Nat}
    {all : List (String × List UInt8)} {left : List UInt8} (hnames : fs.names.Nodup)
    (h : fs.Supplied depth all slots) :
    ∀ {fuel : Nat} {first : Bool} {text : List UInt8} {members : List (String × List UInt8)}
      {seen : List String}, memberTexts fuel first text = .ok members left →
      (members.map Prod.fst).Nodup → (∀ m ∈ members, m.1 ∉ seen) →
      (∀ m ∈ members, all.lookup m.1 = some m.2) →
      Reader.foldMembersFrom (fun key slots => fs.readMember key depth slots) fuel first
          (fs.only seen slots) text
        = .ok (.ok (fs.only ((members.map Prod.fst).reverse ++ seen) slots)) left := by
  intro fuel
  induction fuel with
  | zero => intro first text members seen hmembers; cases hmembers
  | succ fuel ih =>
    intro first text members seen hmembers hdistinct hseen hall
    rcases memberTexts_ok hmembers with ⟨hnone, rfl⟩ |
      ⟨more, name, named, value, after, later, hmember, hname, hcolon, hskip, hlater, rfl⟩
    · exact foldMembersFrom_nil hnone
    · obtain ⟨hfresh, hdistinct⟩ := List.nodup_cons.mp hdistinct
      have hstep := h.readMember (hseen _ List.mem_cons_self) (hall _ List.mem_cons_self) hcolon
        hskip hnames
      have hunseen : ∀ m ∈ later, m.1 ∉ name :: seen := by
        intro m hm hmem
        rcases List.mem_cons.mp hmem with heq | hmem
        · exact hfresh (List.mem_map.mpr ⟨m, hm, heq⟩)
        · exact hseen m (List.mem_cons_of_mem _ hm) hmem
      have hrest := ih hlater hdistinct hunseen fun m hm => hall m (List.mem_cons_of_mem _ hm)
      have hall : ((name, value) :: later).map Prod.fst = name :: later.map Prod.fst := rfl
      rw [hall, List.reverse_cons, List.append_assoc]
      exact foldMembersFrom_cons hmember hname hstep hrest

/-- **Members that give what is in the slots are read into the slots.** -/
theorem Supplied.foldMembers {fs : Fields} {slots : fs.Slots} {depth : Nat}
    {members : List (String × List UInt8)} {text left : List UInt8} (hnames : fs.names.Nodup)
    (h : fs.Supplied depth members slots)
    (hmembers : memberTexts (text.length + 1) true text = .ok members left)
    (hdistinct : (members.map Prod.fst).Nodup) :
    Reader.foldMembers (fun key slots => fs.readMember key depth slots) fs.unmet text
      = .ok (.ok slots) left := by
  have hread := h.foldMembersFrom hnames hmembers hdistinct (fun m _ => List.not_mem_nil)
    (lookup_of_mem hdistinct)
  have hseen : ∀ m ∈ members, m.1 ∈ (members.map Prod.fst).reverse ++ [] := by
    intro m hm
    rw [List.append_nil]
    exact List.mem_reverse.mpr (List.mem_map_of_mem hm)
  rw [fs.only_nil, h.only_eq hseen] at hread
  exact hread

end Fields

/-! ### Members for a reader of slots -/

/-- The text gives what is in the slot at the end and was not at the start. -/
def Shape.FilledPart (s : Shape) (depth : Nat) (slot slot' : Option s.Value)
    (found : Option (List UInt8)) : Prop :=
  match slot with
  | some v => slot' = some v ∧ found = none
  | none => s.SuppliedPart depth slot' found

namespace Fields

/-- Whatever a field reads can be passed over. -/
def AllPass (depth : Nat) : Fields → Prop
  | .done => True
  | .field _ _ s rest =>
    (∀ {text left v}, s.read depth text = .ok v left → Passes text left) ∧ rest.AllPass depth

/-- The members give what is in the slots at the end and was not at the start. -/
def Filled (depth : Nat) (members : List (String × List UInt8)) :
    (fs : Fields) → fs.Slots → fs.Slots → Prop
  | .done, _, _ => True
  | .field name _ s rest, (slot, slots), (slot', slots') =>
    s.FilledPart depth slot slot' (members.lookup name) ∧ rest.Filled depth members slots slots'

theorem filled_refl {depth : Nat} : ∀ {fs : Fields} {slots : fs.Slots},
    fs.Filled depth [] slots slots
  | .done, _ => trivial
  | .field _ _ _ _, (some _, _) => ⟨⟨rfl, rfl⟩, filled_refl⟩
  | .field _ _ _ _, (none, _) => ⟨rfl, filled_refl⟩

theorem Filled.supplied {depth : Nat} {members : List (String × List UInt8)} :
    ∀ {fs : Fields} {slots : fs.Slots}, fs.Filled depth members fs.unmet slots →
      fs.Supplied depth members slots
  | .done, _, _ => trivial
  | .field _ _ _ _, (_, _), h => ⟨h.1, h.2.supplied⟩

theorem lookup_cons_of_ne {key name : String} {value : List UInt8}
    {members : List (String × List UInt8)} (h : name ≠ key) :
    ((key, value) :: members).lookup name = members.lookup name := by
  rw [List.lookup_cons, beq_eq_false_iff_ne.mpr h]

theorem Filled.cons {depth : Nat} {key : String} {value : List UInt8}
    {members : List (String × List UInt8)} : ∀ {fs : Fields} {slots slots' : fs.Slots},
    key ∉ fs.names → fs.Filled depth members slots slots' →
      fs.Filled depth ((key, value) :: members) slots slots'
  | .done, _, _, _, _ => trivial
  | .field name _ s rest, (slot, slots), (slot', slots'), hkey, h => by
    obtain ⟨hname, hrest⟩ : key ≠ name ∧ key ∉ rest.names := by
      simpa [names] using hkey
    refine ⟨?_, h.2.cons hrest⟩
    rw [lookup_cons_of_ne (Ne.symm hname)]
    exact h.1

/-- A member that was read fills the slot of its name, and its value can be passed over. -/
theorem filled_of_readMember {depth : Nat} {key : String} {named after : List UInt8} :
    ∀ {fs : Fields} {slots next : fs.Slots}, fs.names.Nodup → fs.AllPass depth →
      fs.readMember key depth slots named = .ok (.ok next) after →
      ∃ value, colon named = .ok () value ∧ skipValue value = .ok () after ∧
        ∀ {members final}, fs.Filled depth members next final →
          fs.Filled depth ((key, value) :: members) slots final
  | .done, _, _, _, _, h => by
    obtain ⟨_, value, hcolon, h⟩ := exists_of_bind_ok h
    obtain ⟨_, after', hskip, h⟩ := exists_of_bind_ok h
    cases h
    exact ⟨value, hcolon, within_ok hskip, fun _ => trivial⟩
  | .field name required s rest, (slot, slots), (slot', slots'), hnames, hpass, h => by
    obtain ⟨hname, hnames⟩ := List.nodup_cons.mp hnames
    rw [Fields.readMember] at h
    by_cases heq : key = name
    · subst heq
      rw [if_pos (by simp)] at h
      cases slot with
      | some v => cases h
      | none =>
        rw [if_neg (by simp)] at h
        obtain ⟨_, value, hcolon, h⟩ := exists_of_bind_ok h
        obtain ⟨v, after', hread, h⟩ := exists_of_bind_ok h
        have hread := within_ok hread
        cases h
        have hskip := (hpass.1 hread).skipValue
        refine ⟨value, hcolon, hskip, ?_⟩
        intro members slots hfilled
        obtain ⟨final, finals⟩ := slots
        obtain ⟨⟨rfl, -⟩, hrest⟩ := hfilled
        refine ⟨?_, hrest.cons hname⟩
        rw [List.lookup_cons, beq_self_eq_true]
        exact ⟨v, after, rfl, hread, hskip⟩
    · rw [if_neg (by simpa using heq)] at h
      obtain ⟨result, after', hrest, h⟩ := exists_of_bind_ok h
      cases result with
      | error m => cases h
      | ok next =>
        cases h
        obtain ⟨value, hcolon, hskip, hfill⟩ := filled_of_readMember hnames hpass.2 hrest
        refine ⟨value, hcolon, hskip, ?_⟩
        intro members slots hfilled
        obtain ⟨final, finals⟩ := slots
        refine ⟨?_, hfill hfilled.2⟩
        rw [lookup_cons_of_ne (Ne.symm heq)]
        exact hfilled.1

/-- **What was read into slots is given by the members.** -/
theorem filled_of_foldMembersFrom {fs : Fields} {depth : Nat} {left : List UInt8}
    (hnames : fs.names.Nodup) (hpass : fs.AllPass depth) :
    ∀ {fuel : Nat} {first : Bool} {text : List UInt8} {slots final : fs.Slots},
      foldMembersFrom (fun key slots => fs.readMember key depth slots) fuel first slots text
        = .ok (.ok final) left →
      ∃ members, memberTexts fuel first text = .ok members left ∧
        fs.Filled depth members slots final := by
  intro fuel
  induction fuel with
  | zero => intro first text slots final h; cases h
  | succ fuel ih =>
    intro first text slots final h
    rcases foldMembersFrom_ok h with
      ⟨hnone, rfl⟩ | ⟨more, name, named, next, after, hmember, hname, hstep, hlater⟩
    · exact ⟨[], memberTexts_nil hnone, filled_refl⟩
    · obtain ⟨members, hmembers, hfilled⟩ := ih hlater
      obtain ⟨value, hcolon, hskip, hfill⟩ := filled_of_readMember hnames hpass hstep
      exact ⟨(name, value) :: members, memberTexts_cons hmember hname hcolon hskip hmembers,
        hfill hfilled⟩

end Fields

end HealthBoard.Json
