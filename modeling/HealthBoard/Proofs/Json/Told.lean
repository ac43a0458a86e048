/-
Field by field, what an object says of a record.

An object is read member after member into slots, and what is missing is filled in at the end.
What comes of it can be said without slots, and for every field alone: its value is that of the one
member with its name, or without such a member its default (`Fields.Told`).  Two members of one name
tell nothing.  The order of the members does not come into it, nor do members that are no field.

The induction is on the members, for slots of which some are filled already (`Fields.Yields`).
-/
import HealthBoard.Proofs.Json.Records

namespace HealthBoard.Json

open Reader

/-- The texts of the values that are given for a name. -/
def textsOf (name : String) (members : List Member) : List (List UInt8) :=
  (members.filter fun m => m.name? = some name).map fun m => m.item.value

/-- What the texts that are given for a field tell of it. -/
def Shape.Told (s : Shape) (depth : Nat) (required : Bool) : List (List UInt8) → s.Value → Prop
  | [], v => if required = true then s.absent? = some v else v = s.blank
  | [t], v => readAll? (s.read depth) t = some v
  | _, _ => False

/-- What they tell if this was met before. -/
def Shape.Yields (s : Shape) (depth : Nat) (required : Bool) :
    Option s.Value → List (List UInt8) → s.Value → Prop
  | none, texts, v => s.Told depth required texts v
  | some met, texts, v => texts = [] ∧ v = met

namespace Fields

/-- The members of an object tell the values of all fields. -/
def Told (depth : Nat) (members : List Member) : (fs : Fields) → fs.Values → Prop
  | .done, _ => True
  | .field name required s rest, (v, vs) =>
    s.Told depth required (textsOf name members) v ∧ rest.Told depth members vs

/-- They tell the values, with what is in the slots. -/
def Yields (depth : Nat) (members : List Member) : (fs : Fields) → fs.Slots → fs.Values → Prop
  | .done, _, _ => True
  | .field name required s rest, (slot, slots), (v, vs) =>
    s.Yields depth required slot (textsOf name members) v ∧ rest.Yields depth members slots vs

end Fields

section Names

variable {name : String} {m : Member} {members members' : List Member}

theorem Member.name?_ne {key : String} (hkey : m.name? = some key) (h : key ≠ name) :
    m.name? ≠ some name := by
  rw [hkey]
  exact fun heq => h (Option.some.inj heq)

theorem textsOf_cons_of_eq (h : m.name? = some name) :
    textsOf name (m :: members) = m.item.value :: textsOf name members := by
  rw [textsOf, List.filter_cons_of_pos (by simp [h])]
  rfl

theorem textsOf_cons_of_ne (h : m.name? ≠ some name) :
    textsOf name (m :: members) = textsOf name members := by
  rw [textsOf, List.filter_cons_of_neg (by simp [h])]
  rfl

theorem textsOf_eq_nil (h : ∀ m ∈ members, m.name? ≠ some name) : textsOf name members = [] := by
  have hnone : members.filter (fun m => m.name? = some name) = [] := by
    simpa [List.filter_eq_nil_iff] using h
  rw [textsOf, hnone]
  rfl

theorem textsOf_perm (h : members.Perm members') :
    (textsOf name members).Perm (textsOf name members') :=
  (h.filter _).map _

end Names

/-! ### Slots -/

section Slots

variable {s : Shape} {depth : Nat} {required : Bool} {slot : Option s.Value} {text : List UInt8}
  {texts : List (List UInt8)} {v : s.Value}

theorem Shape.told_cons : s.Told depth required (text :: texts) v ↔
    texts = [] ∧ readAll? (s.read depth) text = some v := by
  cases texts <;> simp [Shape.Told]

/-- The first text fills the slot, which has to be empty. -/
theorem Shape.yields_cons : s.Yields depth required slot (text :: texts) v ↔
    slot = none ∧ ∃ met, readAll? (s.read depth) text = some met ∧
      s.Yields depth required (some met) texts v := by
  cases slot with
  | some met => simp [Shape.Yields]
  | none =>
      constructor
      · intro h
        obtain ⟨hnone, hread⟩ := Shape.told_cons.mp h
        exact ⟨rfl, v, hread, hnone, rfl⟩
      · rintro ⟨-, met, hread, hnone, rfl⟩
        exact Shape.told_cons.mpr ⟨hnone, hread⟩

theorem Shape.Told.unique {v' : s.Value} (h : s.Told depth required texts v)
    (h' : s.Told depth required texts v') : v = v' := by
  match texts with
  | [] =>
      cases required with
      | true => exact Option.some.inj (h.symm.trans h')
      | false => exact h.trans h'.symm
  | [t] => exact Option.some.inj (h.symm.trans h')
  | _ :: _ :: _ => exact h.elim

/-- At most one text tells anything, so their order is none. -/
theorem Shape.Told.perm {texts' : List (List UInt8)} (hperm : texts.Perm texts')
    (h : s.Told depth required texts v) : s.Told depth required texts' v := by
  match texts with
  | [] =>
      rw [hperm.nil_eq.symm]
      exact h
  | [t] =>
      rw [hperm.singleton_eq.symm]
      exact h
  | _ :: _ :: _ => exact h.elim

end Slots

namespace Fields

section Members

variable {depth : Nat} {name key : String} {m : Member} {members : List Member}

theorem told_iff_yields : ∀ {fs : Fields} {vs : fs.Values},
    fs.Told depth members vs ↔ fs.Yields depth members fs.unmet vs
  | .done, _ => Iff.rfl
  | .field _ _ _ _, (_, _) => and_congr_right fun _ => told_iff_yields

section Field

variable {required : Bool} {s : Shape} {rest : Fields} {slot : Option s.Value} {slots : rest.Slots}

theorem add_empty {text : List UInt8} :
    (Fields.field name required s rest).add depth name text (none, slots)
      = (readAll? (s.read depth) text).map fun v => (some v, slots) := by
  simp only [add, if_pos]

theorem add_of_ne {text : List UInt8} (h : key ≠ name) :
    (Fields.field name required s rest).add depth key text (slot, slots)
      = (rest.add depth key text slots).map fun slots => (slot, slots) := by
  simp only [add, if_neg h]

/-- The first field of those that are filled up. -/
theorem complete_field {v : s.Value} {vs : rest.Values} :
    (Fields.field name required s rest).complete (slot, slots) = .ok (v, vs) ↔
      s.Yields depth required slot [] v ∧ rest.complete slots = .ok vs := by
  cases hrest : rest.complete slots <;>
    cases slot <;>
    cases required <;>
    cases habsent : s.absent? <;>
    simp [complete, Shape.Yields, Shape.Told, hrest, habsent, bind, Except.bind, pure,
      Except.pure, eq_comm]

end Field

/-- Without members, what is missing is filled in. -/
theorem yields_nil : ∀ {fs : Fields} {slots : fs.Slots} {vs : fs.Values},
    fs.Yields depth [] slots vs ↔ fs.complete slots = .ok vs
  | .done, (), () => ⟨fun _ => rfl, fun _ => trivial⟩
  | .field _ _ _ _, (_, _), (_, _) => by
    rw [complete_field, ← yields_nil]
    exact Iff.rfl

/-- A member of another name says nothing of the fields. -/
theorem yields_cons_of_notMem (hkey : m.name? = some key) : ∀ {fs : Fields} {slots : fs.Slots}
    {vs : fs.Values}, key ∉ fs.names →
      (fs.Yields depth (m :: members) slots vs ↔ fs.Yields depth members slots vs)
  | .done, _, _, _ => Iff.rfl
  | .field name required s rest, (slot, slots), (v, vs), hunknown => by
    obtain ⟨hname, hrest⟩ : key ≠ name ∧ key ∉ rest.names := by
      simpa [names] using hunknown
    rw [Yields, Yields, textsOf_cons_of_ne (m.name?_ne hkey hname),
      yields_cons_of_notMem hkey hrest]

/-- A member does first what it tells, and then come the others. -/
theorem yields_cons (hkey : m.name? = some key) : ∀ {fs : Fields} {slots : fs.Slots}
    {vs : fs.Values}, fs.names.Nodup →
      (fs.Yields depth (m :: members) slots vs ↔
        ∃ next, fs.add depth key m.item.value slots = some next ∧
          fs.Yields depth members next vs)
  | .done, _, _, _ => ⟨fun _ => ⟨(), rfl, trivial⟩, fun _ => trivial⟩
  | .field name required s rest, (slot, slots), (v, vs), hnames => by
    obtain ⟨hfresh, hnames⟩ := List.nodup_cons.mp hnames
    by_cases heq : key = name
    · subst heq
      rw [Yields, textsOf_cons_of_eq hkey, yields_cons_of_notMem hkey hfresh, Shape.yields_cons]
      cases slot with
      | some met => simp [add]
      | none =>
          rw [add_empty]
          constructor
          · rintro ⟨⟨-, met, hmet, hyields⟩, hrest⟩
            exact ⟨(some met, slots), Option.map_eq_some_iff.mpr ⟨met, hmet, rfl⟩, hyields, hrest⟩
          · rintro ⟨next, hnext, hyields⟩
            obtain ⟨met, hmet, rfl⟩ := Option.map_eq_some_iff.mp hnext
            exact ⟨⟨rfl, met, hmet, hyields.1⟩, hyields.2⟩
    · rw [Yields, textsOf_cons_of_ne (m.name?_ne hkey heq), yields_cons hkey hnames, add_of_ne heq]
      constructor
      · rintro ⟨hyields, next, hnext, hrest⟩
        exact ⟨(slot, next), Option.map_eq_some_iff.mpr ⟨next, hnext, rfl⟩, hyields, hrest⟩
      · rintro ⟨next, hnext, hyields⟩
        obtain ⟨next, hadd, rfl⟩ := Option.map_eq_some_iff.mp hnext
        exact ⟨hyields.1, next, hadd, hyields.2⟩

end Members

/-- **Reading the members one after the other gives what they tell.** -/
theorem foldTexts_iff {fs : Fields} {depth : Nat} (hnames : fs.names.Nodup) {vs : fs.Values} :
    ∀ {members : List Member} {slots : fs.Slots},
      (∃ final, foldTexts (fs.add depth) members slots = some final ∧
          fs.complete final = .ok vs) ↔
        (∀ m ∈ members, m.name?.isSome) ∧ fs.Yields depth members slots vs := by
  intro members
  induction members with
  | nil =>
      intro slots
      rw [yields_nil]
      simp [foldTexts]
  | cons m members ih =>
      intro slots
      cases hname : m.name? with
      | none => simp [foldTexts, hname]
      | some name =>
          rw [yields_cons hname hnames]
          constructor
          · rintro ⟨final, hfold, hcomplete⟩
            simp only [foldTexts, hname, Option.bind_eq_bind, Option.bind_some,
              Option.bind_eq_some_iff] at hfold
            obtain ⟨next, hnext, hfold⟩ := hfold
            obtain ⟨hnamed, hyields⟩ := ih.mp ⟨final, hfold, hcomplete⟩
            refine ⟨List.forall_mem_cons.mpr ⟨?_, hnamed⟩, next, hnext, hyields⟩
            rw [hname]
            rfl
          · rintro ⟨hnamed, next, hnext, hyields⟩
            obtain ⟨final, hfold, hcomplete⟩ :=
              ih.mpr ⟨(List.forall_mem_cons.mp hnamed).2, hyields⟩
            refine ⟨final, ?_, hcomplete⟩
            simp only [foldTexts, hname, hnext, Option.bind_eq_bind, Option.bind_some, hfold]

end Fields

/-! ### Whole texts -/

/-- How deep the values in an outermost list or object may go. -/
def innerDepth : Nat := greatestDepth - 1

section Whole

variable {front text inner back : List UInt8}

/-- A text is decoded as what its value says; the space around it says nothing. -/
theorem Shape.decode_spaced {s : Shape} {v : s.Value} (hfront : IsSpaces front)
    (htext : IsValue text) (hback : IsSpaces back) :
    s.decode (front ++ (text ++ back)) = .ok v ↔ readAll? (s.read greatestDepth) text = some v := by
  have hbehind : Behind back := by
    have h := behind_of_spaces hback behind_nil
    rwa [List.append_nil] at h
  have hread (left : List UInt8) : s.read greatestDepth (front ++ (text ++ back)) = .ok v left ↔
      readAll? (s.read greatestDepth) text = some v ∧ left = back := by
    rw [(s.trims greatestDepth).spaces hfront htext.startsValue]
    exact s.settled greatestDepth htext back hbehind v left
  constructor
  · intro h
    obtain ⟨left, hleft, -⟩ := Shape.exists_read_of_decode h
    exact ((hread left).mp hleft).1
  · intro h
    have hspace : (back ++ []).dropWhile isSpace = [] := dropWhile_spaces hback
    rw [List.append_nil] at hspace
    exact Shape.decode_of_read ((hread back).mpr ⟨h, rfl⟩) hspace

variable {name : String} {fs : Fields} {vs : fs.Values} {members : List Member}
  {items : List Item}

/-- **An object is decoded as what its members tell**, if they all have names. -/
theorem decode_braced (hnames : fs.names.Nodup) (hfront : IsSpaces front) (hinner : IsSpaces inner)
    (hback : IsSpaces back) (hmembers : ∀ m ∈ members, m.IsMember) :
    (Shape.record name fs).decode (front ++ (braced inner members ++ back)) = .ok vs ↔
      (∀ m ∈ members, m.name?.isSome) ∧ fs.Told innerDepth members vs := by
  have hrecord : (Shape.record name fs).read greatestDepth (braced inner members ++ []) = .ok vs []
      ↔ _ := record_braced hinner hmembers fun m hm => fs.adds_readMember _ (hmembers m hm)
  rw [List.append_nil] at hrecord
  rw [Shape.decode_spaced hfront (isValue_braced hinner hmembers) hback, readAll?_eq_some, hrecord,
    Fields.foldTexts_iff hnames, ← Fields.told_iff_yields]
  exact (and_iff_left rfl).trans (and_iff_right (by decide))

/-- **A list is decoded as what its items give**, one for each field. -/
theorem decode_bracketed (hfront : IsSpaces front) (hinner : IsSpaces inner)
    (hback : IsSpaces back) (hitems : ∀ i ∈ items, i.IsItem) :
    (Shape.record name fs).decode (front ++ (bracketed inner items ++ back)) = .ok vs ↔
      fs.Listed innerDepth items vs := by
  have hrecord : (Shape.record name fs).read greatestDepth (bracketed inner items ++ []) = .ok vs []
      ↔ _ := record_bracketed hinner hitems fs.readsItems
  rw [List.append_nil] at hrecord
  rw [Shape.decode_spaced hfront (isValue_bracketed hinner hitems) hback, readAll?_eq_some, hrecord]
  exact (and_iff_left rfl).trans (and_iff_right (by decide))

end Whole

end HealthBoard.Json
