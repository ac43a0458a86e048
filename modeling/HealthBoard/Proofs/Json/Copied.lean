/-
What is taken out of JSON and written again is what was given.

A record can be given as an object or as the list of its values, and may leave out what has a
default.  Either way every field of the value taken out is the part given for it, or blank
(`convert_record_holds`).  An object is gone through in the order of its members, and what carries
the proof is that after some of them each slot holds what those give for its field: a second member
for the same field would have been refused.  A whole number or a text is written as it was given, so
a record of such fields is written with every part unchanged.
-/
import HealthBoard.Json.Wire
import HealthBoard.Proofs.Except
import HealthBoard.Proofs.Json.ReadBack

namespace HealthBoard.Json

/-- What is given for a field: the member of its name, or the value at its place. -/
def part? (given : Json) (index : Nat) (name : String) : Option Json :=
  match given with
  | .obj members => members.lookup name
  | .arr items => items[index]?
  | _ => none

/-- The fields with what is given for them; what is not given has a default. -/
def copied (given : Json) (fields : List (String × Json)) : List (String × Json) :=
  fields.mapIdx fun index field => (field.1, (given.part? index field.1).getD field.2)

/-! ### Parts and values -/

/-- The value is the one given, or blank if none is. -/
def Shape.HoldsPart (s : Shape) (v : s.Value) : Option Json → Prop
  | some j => s.convert j = .ok v
  | none => v = s.blank

/-- Every value is the one given for its field; `part` is what is given. -/
def Fields.Holds : (fs : Fields) → fs.Values → (Nat → String → Option Json) → Prop
  | .done, _, _ => True
  | .field name _ s rest, (v, vs), part =>
      s.HoldsPart v (part 0 name) ∧ rest.Holds vs fun index => part (index + 1)

/-! ### Lists of values -/

theorem Fields.convertItems_holds {record : String} {total : Nat} :
    ∀ (fs : Fields) {index : Nat} {items : List Json} {vs : fs.Values} {left : List Json},
      fs.convertItems record total index items = .ok (vs, left) →
        fs.Holds vs fun i _ => items[i]?
  | .done, _, _, _, _, _ => trivial
  | .field name required s rest, index, [], vs, left, h => by
    rw [convertItems] at h
    split at h
    · cases h
    · obtain ⟨⟨vs', left'⟩, hrest, h⟩ := exists_of_bind_eq_ok h
      cases h
      exact ⟨rfl, rest.convertItems_holds hrest⟩
  | .field name required s rest, index, j :: items, vs, left, h => by
    rw [convertItems] at h
    obtain ⟨v, hv, h⟩ := exists_of_bind_eq_ok h
    obtain ⟨⟨vs', left'⟩, hrest, h⟩ := exists_of_bind_eq_ok h
    cases h
    exact ⟨hv, rest.convertItems_holds hrest⟩

/-! ### Members of an object -/

/-- A slot holds what was found for its field so far. -/
def Shape.MetPart (s : Shape) (slot : Option s.Value) (found : Option Json) : Prop :=
  match slot with
  | some v => ∃ j, found = some j ∧ s.convert j = .ok v
  | none => found = none

/-- Every slot holds what was found for its field so far. -/
def Fields.Met : (fs : Fields) → fs.Slots → (String → Option Json) → Prop
  | .done, _, _ => True
  | .field name _ s rest, (slot, slots), found => s.MetPart slot (found name) ∧ rest.Met slots found

namespace Fields

theorem met_unmet : ∀ fs : Fields, fs.Met fs.unmet fun _ => none
  | .done => trivial
  | .field _ _ _ rest => ⟨rfl, rest.met_unmet⟩

theorem Met.congr {found found' : String → Option Json} : ∀ {fs : Fields} {slots : fs.Slots},
    fs.Met slots found → (∀ name ∈ fs.names, found name = found' name) → fs.Met slots found'
  | .done, _, _, _ => trivial
  | .field name _ _ _, _, h, hsame =>
    ⟨hsame name List.mem_cons_self ▸ h.1, h.2.congr fun n hn => hsame n (List.mem_cons_of_mem _ hn)⟩

/-- A member goes into the slot of its field, which was empty, and changes nothing else. -/
theorem Met.convertMember {key : String} {j : Json} {found : String → Option Json} :
    ∀ {fs : Fields} {slots slots' : fs.Slots}, fs.Met slots found → fs.names.Nodup →
      fs.convertMember key j slots = .ok slots' →
        fs.Met slots' fun name => (found name).or (if name = key then some j else none)
  | .done, _, _, _, _, _ => trivial
  | .field name required s rest, (slot, slots), slots', h, hnames, hconvert => by
    obtain ⟨hname, hnames⟩ := List.nodup_cons.mp hnames
    rw [Fields.convertMember] at hconvert
    by_cases hkey : key = name
    · subst hkey
      rw [if_pos (beq_self_eq_true key)] at hconvert
      split at hconvert
      · cases hconvert
      · rename_i hempty
        obtain ⟨v, hv, hconvert⟩ := exists_of_bind_eq_ok hconvert
        cases hconvert
        have hnone : found key = none := by
          cases slot with
          | none => exact h.1
          | some v => exact absurd rfl hempty
        refine ⟨⟨j, by simp [hnone], hv⟩, h.2.congr fun n hn => ?_⟩
        have hne : n ≠ key := fun heq => hname (heq ▸ hn)
        rw [if_neg hne, Option.or_none]
    · rw [if_neg (by simpa using hkey)] at hconvert
      obtain ⟨slots'', hrest, hconvert⟩ := exists_of_bind_eq_ok hconvert
      cases hconvert
      refine ⟨?_, h.2.convertMember hnames hrest⟩
      simp only
      rw [if_neg (Ne.symm hkey), Option.or_none]
      exact h.1

/-- After all members, every slot holds the member of its name. -/
theorem Met.convertMembers {fs : Fields} {members : List (String × Json)} :
    ∀ {slots slots' : fs.Slots} {found : String → Option Json}, fs.Met slots found →
      fs.names.Nodup → Json.convertMembers fs.convertMember members slots = .ok slots' →
        fs.Met slots' fun name => (found name).or (members.lookup name) := by
  induction members with
  | nil =>
    intro slots slots' found h _ hconvert
    cases hconvert
    exact h.congr fun name _ => (Option.or_none).symm
  | cons member rest ih =>
    obtain ⟨key, j⟩ := member
    intro slots slots' found h hnames hconvert
    obtain ⟨slots'', hstep, hrest⟩ := exists_of_bind_eq_ok hconvert
    refine (ih (h.convertMember hnames hstep) hnames hrest).congr fun name _ => ?_
    rw [Option.or_assoc, List.lookup_cons]
    by_cases hkey : name = key
    · simp [hkey]
    · rw [if_neg hkey, beq_eq_false_iff_ne.mpr hkey, Option.none_or]

/-- A field that may be left out without a default has the blank value for one. -/
theorem blank_of_absent? {s : Shape} {v : s.Value} (h : s.absent? = some v) : v = s.blank := by
  cases s with
  | optional inner =>
    cases h
    rfl
  | _ => cases h

/-- What is not met is left blank. -/
theorem Met.complete {found : String → Option Json} : ∀ {fs : Fields} {slots : fs.Slots}
    {vs : fs.Values}, fs.Met slots found → fs.complete slots = .ok vs →
      fs.Holds vs fun _ => found
  | .done, _, _, _, _ => trivial
  | .field name required s rest, (slot, slots), vs, h, hcomplete => by
    have hrest : ∀ v, (rest.complete slots >>= fun vs => pure (v, vs)) = .ok vs →
        vs.1 = v ∧ rest.Holds vs.2 fun _ => found := by
      intro v hv
      obtain ⟨vs', hrest, hv⟩ := exists_of_bind_eq_ok hv
      cases hv
      exact ⟨rfl, h.2.complete hrest⟩
    unfold Fields.complete at hcomplete
    cases slot with
    | some v =>
      obtain ⟨j, hfound, hconvert⟩ := h.1
      obtain ⟨hv, hvs⟩ := hrest v hcomplete
      refine ⟨?_, hvs⟩
      simp only [hfound]
      rw [hv]
      exact hconvert
    | none =>
      have hfound : found name = none := h.1
      have hblank : vs.1 = s.blank ∧ rest.Holds vs.2 fun _ => found := by
        simp only at hcomplete
        split at hcomplete
        · split at hcomplete
          · rename_i v habsent
            rw [← blank_of_absent? habsent]
            exact hrest v hcomplete
          · cases hcomplete
        · exact hrest s.blank hcomplete
      refine ⟨?_, hblank.2⟩
      simp only [hfound]
      exact hblank.1

end Fields

/-- **Every field of a record holds what is given for it**, or is blank. -/
theorem Shape.convert_record_holds {name : String} {fs : Fields} {given : Json} {vs : fs.Values}
    (hnames : fs.names.Nodup) (h : (Shape.record name fs).convert given = .ok vs) :
    fs.Holds vs given.part? := by
  cases given with
  | arr items =>
    rw [Shape.convert] at h
    obtain ⟨⟨values, left⟩, hitems, h⟩ := exists_of_bind_eq_ok h
    simp only at h
    split at h
    · cases h
      exact fs.convertItems_holds hitems
    · cases h
  | obj members =>
    rw [Shape.convert] at h
    obtain ⟨slots, hmembers, hcomplete⟩ := exists_of_bind_eq_ok h
    exact (fs.met_unmet.convertMembers hnames hmembers).complete hcomplete
  | _ => cases h

/-! ### Records that are written as they were given -/

/-- A whole number or a text. -/
def Shape.IsScalar : Shape → Prop
  | .integer | .text => True
  | _ => False

/-- All fields are whole numbers and texts. -/
def Fields.AllScalar : Fields → Prop
  | .done => True
  | .field _ _ s rest => s.IsScalar ∧ rest.AllScalar

/-- The fields with what is written for them if they are blank. -/
def Fields.blanks : Fields → List (String × Json)
  | .done => []
  | .field name _ s rest => (name, s.toJson s.blank) :: rest.blanks

/-- A whole number or a text is written as it was given. -/
theorem Shape.IsScalar.toJson_of_convert {s : Shape} {v : s.Value} {j : Json} (hs : s.IsScalar)
    (h : s.convert j = .ok v) : s.toJson v = j := by
  cases s with
  | integer =>
    rw [Shape.convert] at h
    cases j with
    | int n =>
      simp only [asInteger] at h
      split at h
      · rename_i hrange
        cases h
        unfold leastInteger greatestInteger at hrange
        show Json.int (Int64.ofInt n).toInt = .int n
        rw [Int64.toInt_ofInt_of_le (by omega) (by omega)]
      · cases h
    | _ => cases h
  | text =>
    cases j with
    | str text =>
      cases h
      rfl
    | _ => cases h
  | _ => cases hs

theorem Shape.HoldsPart.toJson_eq {s : Shape} {v : s.Value} {part : Option Json}
    (h : s.HoldsPart v part) (hs : s.IsScalar) : s.toJson v = part.getD (s.toJson s.blank) := by
  cases part with
  | none => exact congrArg s.toJson h
  | some j => exact hs.toJson_of_convert h

theorem Fields.Holds.toMembers_eq : ∀ {fs : Fields} {vs : fs.Values}
    {part : Nat → String → Option Json}, fs.Holds vs part → fs.AllScalar →
      fs.toMembers vs = fs.blanks.mapIdx fun index field =>
        (field.1, (part index field.1).getD field.2)
  | .done, _, _, _, _ => rfl
  | .field name _ s rest, (v, vs), part, h, hs => by
    rw [toMembers, blanks, List.mapIdx_cons, h.1.toJson_eq hs.1, h.2.toMembers_eq hs.2]

/-- **A record of whole numbers and texts is written with every part as it was given.** -/
theorem Shape.toMembers_of_convert {name : String} {fs : Fields} {given : Json} {vs : fs.Values}
    (hnames : fs.names.Nodup) (hs : fs.AllScalar)
    (h : (Shape.record name fs).convert given = .ok vs) :
    fs.toMembers vs = given.copied fs.blanks :=
  (convert_record_holds hnames h).toMembers_eq hs

end HealthBoard.Json
