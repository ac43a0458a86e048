/-
What an object or a list says of a record.

Whether a text is read as a record, and as which, is said here by its parts alone.  The members of
an object fill slots, each from its name and the text of its value (`Fields.add`, `record_braced`).
The items of a list give the values in the order of the fields, and the list may end before fields
with a default (`Fields.Listed`, `record_bracketed`).

A record is read by the readers of its fields, and these may be records again.  So what a member
does and what an item gives is shown for all shapes and fields together, in one induction, with what
it rests on: that a value of any shape is settled by its text (`Shape.settled`).
-/
import HealthBoard.Proofs.Json.Contents
import HealthBoard.Proofs.Json.Direct

namespace HealthBoard.Json

open Reader

variable {α β : Type}

/-! ### Readers that look at the first byte -/

section Starts

variable {b : UInt8} {more : List UInt8}

theorem settled_refuse (wanted : String) (text : List UInt8) :
    Settled (refuse wanted : Reader α) text :=
  settled_of_fails fun _ a left => complains_refuse wanted _ left a

theorem settled_valueStart {f : UInt8 → Reader α} (hb : isSpace b = false)
    (h : Settled (f b) (b :: more)) : Settled (valueStart >>= f) (b :: more) := by
  refine settled_of_eq (fun rest _ => ?_) h
  rw [List.cons_append, bind_of_ok (valueStart_cons hb)]

theorem settled_skip {r : Reader α} (h : Settled r more) :
    Settled (skip >>= fun _ => r) (b :: more) :=
  settled_of_eq (fun _ _ => rfl) h

/-- A value begins with the `n` of `null`, or with another byte. -/
theorem null_or_of_isValue {text : List UInt8} (h : IsValue text) :
    text = 0x6E :: ull ∨ ∃ b more, text = b :: more ∧ isSpace b = false ∧ b ≠ 0x6E := by
  cases h with
  | null => exact .inl rfl
  | positive h =>
      obtain ⟨b, more, rfl, hb⟩ := h.starts
      refine .inr ⟨b, more, rfl, isSpace_of_isDigit hb, ?_⟩
      rintro rfl
      cases hb
  | _ => exact .inr ⟨_, _, rfl, rfl, by decide⟩

theorem orNull_of_ne {none : α} {inner : Reader α} (hspace : isSpace b = false) (hb : b ≠ 0x6E) :
    orNull none inner (b :: more) = inner (b :: more) := by
  rw [orNull, bind_of_ok (peekToken_cons hspace)]
  simp [hb]

theorem settled_orNull {none : α} {inner : Reader α} {text : List UInt8} (htext : IsValue text)
    (h : Settled inner text) : Settled (orNull none inner) text := by
  rcases null_or_of_isValue htext with rfl | ⟨b, more, rfl, hspace, hb⟩
  · exact settled_of_ok (a := none) fun rest _ => rfl
  · exact settled_of_eq (fun rest _ => orNull_of_ne hspace hb) h

end Starts

section Scalars

variable {text : List UInt8}

theorem settled_numeric {wanted : String} {accept : Json → Except Mismatch α}
    (htext : IsValue text) : Settled (numeric wanted accept) text := by
  cases htext with
  | negative h =>
      have hnumber := (settled_number true h).bind fun j => still_judged (accept j)
      exact settled_valueStart rfl (settled_skip hnumber)
  | positive h =>
      obtain ⟨b, more, rfl, hb⟩ := h.starts
      refine settled_valueStart (isSpace_of_isDigit hb) ?_
      rw [beq_of_isDigit hb rfl, if_neg Bool.false_ne_true, if_pos hb]
      exact (settled_number false h).bind fun j => still_judged (accept j)
  | _ => exact settled_valueStart rfl (settled_refuse wanted _)

theorem settled_boolean (htext : IsValue text) : Settled Reader.boolean text := by
  cases htext with
  | true => exact settled_of_ok (a := true) fun rest _ => rfl
  | false => exact settled_of_ok (a := false) fun rest _ => rfl
  | positive h =>
      obtain ⟨b, more, rfl, hb⟩ := h.starts
      refine settled_valueStart (isSpace_of_isDigit hb) ?_
      rw [beq_of_isDigit hb rfl, beq_of_isDigit hb rfl]
      exact settled_refuse _ _
  | _ => exact settled_valueStart rfl (settled_refuse _ _)

theorem settled_text (htext : IsValue text) : Settled Reader.text text := by
  cases htext with
  | text h => exact settled_valueStart rfl (settled_skip (settled_string h))
  | positive h =>
      obtain ⟨b, more, rfl, hb⟩ := h.starts
      refine settled_valueStart (isSpace_of_isDigit hb) ?_
      rw [beq_of_isDigit hb rfl]
      exact settled_refuse _ _
  | _ => exact settled_valueStart rfl (settled_refuse _ _)

end Scalars

/-! ### Lists -/

section Lists

variable {inner rest left : List UInt8} {items : List Item} {r : Reader α} {depth : Nat}

theorem list_bracketed (hinner : IsSpaces inner) (hitems : ∀ i ∈ items, i.IsItem)
    (hsettled : ∀ i ∈ items, Settled r i.value) {all : List α} :
    Reader.list depth r (bracketed inner items ++ rest) = .ok all left ↔
      (depth - 1 ≠ 0 ∧ items.mapM (fun i => readAll? r i.value) = some all) ∧ left = rest := by
  have hread : Reader.list depth r (bracketed inner items ++ rest)
      = (do descend (depth - 1); skip; Reader.items fun i => within (.index i) r : Reader (List α))
          (bracketed inner items ++ rest) := by
    rw [bracketed_append, Reader.list, bind_of_ok (valueStart_cons rfl)]
    rfl
  rw [hread, bracketed_append, descend_skip_iff,
    items_bracketed hinner hitems (fun _ _ _ _ => within_iff) hsettled, and_assoc]

theorem settled_list {text : List UInt8} (htext : IsValue text)
    (hsettled : ∀ {text}, IsValue text → Settled r text) : Settled (Reader.list depth r) text := by
  cases htext with
  | @list inner items hinner hspaces hvalues =>
      exact settled_of_iff fun rest _ all left =>
        list_bracketed hinner (isItem_of_list hspaces hvalues) fun i hi => hsettled (hvalues i hi)
  | positive h =>
      obtain ⟨b, more, rfl, hb⟩ := h.starts
      refine settled_valueStart (isSpace_of_isDigit hb) ?_
      rw [beq_of_isDigit hb rfl]
      exact settled_refuse _ _
  | _ => exact settled_valueStart rfl (settled_refuse _ _)

end Lists

/-! ### Records -/

namespace Fields

/-- Puts what a member tells into the slot of its field; a slot is filled once. -/
def add (depth : Nat) : (fs : Fields) → String → List UInt8 → fs.Slots → Option fs.Slots
  | .done, _, _, () => some ()
  | .field name _ s rest, key, text, (slot, slots) =>
    if key = name then
      match slot with
      | some _ => none
      | none => (readAll? (s.read depth) text).map fun v => (some v, slots)
    else (rest.add depth key text slots).map fun slots => (slot, slots)

/-- The items give the values, in the order of the fields; fields without an item are blank. -/
def Listed (depth : Nat) : (fs : Fields) → List Item → fs.Values → Prop
  | .done, items, _ => items = []
  | .field _ required s rest, [], (v, vs) =>
    (required = false ∧ v = s.blank) ∧ rest.Listed depth [] vs
  | .field _ _ s rest, i :: more, (v, vs) =>
    readAll? (s.read depth) i.value = some v ∧ rest.Listed depth more vs

end Fields

theorem Shape.trims (s : Shape) (depth : Nat) : Trims (s.read depth) := by
  have hstart : Trims valueStart := trims_of_peekToken _
  cases s with
  | any => exact trims_value depth
  | optional s => exact trims_of_peekToken _
  | listOrNull s => exact trims_of_peekToken _
  | record name fs =>
      rw [Shape.read]
      exact hstart.bind _
  | _ => exact hstart.bind _

/-- Space in front of a text changes nothing of what it says. -/
theorem Shape.decode_behind_spaces {s : Shape} {front text : List UInt8} {v : s.Value}
    (hfront : IsSpaces front) (h : s.decode text = .ok v) : s.decode (front ++ text) = .ok v := by
  obtain ⟨left, hread, hleft⟩ := Shape.exists_read_of_decode h
  refine Shape.decode_of_read ?_ hleft
  rw [← s.trims, dropWhile_spaces hfront, s.trims]
  exact hread

section Records

variable {inner rest left : List UInt8} {members : List Member} {items : List Item} {name : String}
  {fs : Fields} {depth : Nat} {vs : fs.Values}

/-- Reading to the end of an object and filling up the slots. -/
theorem complete_iff {r : Reader (Except Mismatch fs.Slots)} {text : List UInt8} :
    (do match ← r with
        | .ok slots => pure (fs.complete slots)
        | .error m => pure (.error m) : Reader (Except Mismatch fs.Values)) text
          = .ok (.ok vs) left ↔
      ∃ slots, r text = .ok (.ok slots) left ∧ fs.complete slots = .ok vs := by
  constructor
  · intro h
    obtain ⟨result, left', hr, h⟩ := exists_of_bind_ok h
    cases result with
    | error m => cases h
    | ok slots =>
        injection h with hcomplete hleft
        exact ⟨slots, hleft ▸ hr, hcomplete⟩
  · rintro ⟨slots, hr, hcomplete⟩
    rw [bind_of_ok hr]
    exact congrArg (EStateM.Result.ok · left) hcomplete

theorem record_braced (hinner : IsSpaces inner) (hmembers : ∀ m ∈ members, m.IsMember)
    (hadds : ∀ m ∈ members,
      Adds (fun key slots => fs.readMember key (depth - 1) slots) (fs.add (depth - 1)) m) :
    (Shape.record name fs).read depth (braced inner members ++ rest) = .ok vs left ↔
      (depth - 1 ≠ 0 ∧ ∃ slots, foldTexts (fs.add (depth - 1)) members fs.unmet = some slots ∧
        fs.complete slots = .ok vs) ∧ left = rest := by
  have hread : (Shape.record name fs).read depth (braced inner members ++ rest)
      = (do
          descend (depth - 1)
          skip
          closing endObject do
            match ← foldMembers (fun key slots => fs.readMember key (depth - 1) slots) fs.unmet with
            | .ok slots => pure (fs.complete slots)
            | .error m => pure (.error m) : Reader fs.Values) (braced inner members ++ rest) := by
    rw [braced_append, Shape.read, bind_of_ok (valueStart_cons rfl)]
    rfl
  rw [hread, braced_append, descend_skip_iff, closing_iff]
  constructor
  · rintro ⟨hdepth, after, hbody, hend⟩
    obtain ⟨slots, hfold, hcomplete⟩ := complete_iff.mp hbody
    obtain ⟨hslots, rfl⟩ := (foldMembers_braced hinner hmembers hadds).mp hfold
    cases endObject_ok hend
    exact ⟨⟨hdepth, slots, hslots, hcomplete⟩, rfl⟩
  · rintro ⟨⟨hdepth, slots, hslots, hcomplete⟩, rfl⟩
    refine ⟨hdepth, _, complete_iff.mpr ⟨slots, ?_, hcomplete⟩, endObject_cons⟩
    exact (foldMembers_braced hinner hmembers hadds).mpr ⟨hslots, rfl⟩

/-- A comma or an item is no end of a list. -/
theorem not_endList_separated {back : List UInt8} {first : Bool} (hback : IsSpaces back) {i : Item}
    (hi : i.IsItem) (more : List Item) :
    endList (back ++ (separated first ((i :: more).map Item.text) ++ rest)) ≠ .ok () left := by
  intro hend
  have hstart := endList_ok hend
  rw [dropWhile_spaces hback, List.map_cons] at hstart
  cases first with
  | false =>
      rw [separated_next] at hstart
      cases hstart
  | true =>
      obtain ⟨b, v, hv, hspace, hb⟩ := hi.value.startsValue
      rw [separated_first, Item.text_append, dropWhile_spaces hi.front, hv, List.cons_append,
        dropWhile_isSpace_cons hspace] at hstart
      exact hb (List.cons.inj hstart).1

/-- The values of a record are read from a list of them, up to the closing bracket. -/
def ReadsItems (fs : Fields) : Prop :=
  ∀ (record : String) (total depth index : Nat) (back inner rest : List UInt8) (items : List Item)
    (vs : fs.Values) (left : List UInt8),
    IsSpaces back → IsSpaces inner → (∀ i ∈ items, i.IsItem) →
      ((∃ after, fs.readItems record total index depth (back ++ (separated (index == 0)
          (items.map Item.text) ++ (inner ++ 0x5D :: rest))) = .ok (.ok vs) after ∧
          endList after = .ok () left) ↔
        fs.Listed depth items vs ∧ left = rest)

theorem readsItems_done : ReadsItems .done := by
  intro record total depth index back inner rest items vs left hback hinner hitems
  cases items with
  | nil =>
      have hend : endList (back ++ (inner ++ 0x5D :: rest)) = .ok () rest := by
        refine endList_of_dropWhile ?_
        rw [dropWhile_spaces hback]
        exact dropWhile_token hinner rfl
      rw [List.map_nil, separated_nil, List.nil_append]
      constructor
      · rintro ⟨after, hread, hclose⟩
        cases hread
        cases hend.symm.trans hclose
        exact ⟨rfl, rfl⟩
      · rintro ⟨-, rfl⟩
        exact ⟨_, rfl, hend⟩
  | cons i more =>
      constructor
      · rintro ⟨after, hread, hclose⟩
        cases hread
        exact absurd hclose (not_endList_separated hback (hitems i List.mem_cons_self) more)
      · rintro ⟨hnone, -⟩
        cases hnone

theorem readsItems_field {field : String} {required : Bool} {s : Shape}
    (hsettled : ∀ depth {text}, IsValue text → Settled (s.read depth) text)
    (hrest : ReadsItems fs) : ReadsItems (.field field required s fs) := by
  intro record total depth index back inner rest items vs left hback hinner hitems
  obtain ⟨v, vs⟩ := vs
  cases items with
  | nil =>
      have hnone : hasItem (index == 0) (back ++ (inner ++ 0x5D :: rest))
          = .ok false (0x5D :: rest) := hasItem_separated_nil hback hinner
      have hlater := hrest record total depth (index + 1) [] [] rest [] vs left isSpaces_nil
        isSpaces_nil fun _ hi => nomatch hi
      rw [List.map_nil, separated_nil, List.nil_append, List.nil_append, List.nil_append] at hlater
      rw [List.map_nil, separated_nil, List.nil_append]
      constructor
      · rintro ⟨after, hread, hclose⟩
        rcases readItems_ok hread with ⟨_, _, hnext, -, -⟩ | ⟨_, hnone', hdefault, hv, hread⟩
        · cases hnone.symm.trans hnext
        · cases hnone.symm.trans hnone'
          obtain ⟨hlisted, hleft⟩ := hlater.mp ⟨after, hread, hclose⟩
          exact ⟨⟨⟨hdefault, hv⟩, hlisted⟩, hleft⟩
      · rintro ⟨⟨⟨rfl, rfl⟩, hlisted⟩, hleft⟩
        obtain ⟨after, hread, hclose⟩ := hlater.mpr ⟨hlisted, hleft⟩
        exact ⟨after, readItems_nil hnone hread, hclose⟩
  | cons i more =>
      obtain ⟨hi, hmore⟩ := List.forall_mem_cons.mp hitems
      have hnext : hasItem (index == 0) (back ++ (separated (index == 0) ((i :: more).map Item.text)
            ++ (inner ++ 0x5D :: rest)))
          = .ok true (i.value ++ (i.back ++ (separated false (more.map Item.text)
            ++ (inner ++ 0x5D :: rest)))) := hasItem_separated_cons hback hi more
      have hbehind := hi.behind hinner more rest
      have hvalue := hsettled depth hi.value _ hbehind
      have hlater := hrest record total depth (index + 1) i.back inner rest more vs left hi.back
        hinner hmore
      constructor
      · rintro ⟨after, hread, hclose⟩
        rcases readItems_ok hread with ⟨_, _, hnext', hv, hread⟩ | ⟨_, hnone, -, -, -⟩
        · cases hnext.symm.trans hnext'
          obtain ⟨hall, rfl⟩ := (hvalue v _).mp hv
          obtain ⟨hlisted, hleft⟩ := hlater.mp ⟨after, hread, hclose⟩
          exact ⟨⟨hall, hlisted⟩, hleft⟩
        · cases hnext.symm.trans hnone
      · rintro ⟨⟨hall, hlisted⟩, hleft⟩
        obtain ⟨after, hread, hclose⟩ := hlater.mpr ⟨hlisted, hleft⟩
        exact ⟨after, readItems_cons hnext ((hvalue v _).mpr ⟨hall, rfl⟩) hread, hclose⟩

theorem readAll?_within (step : Step) (r : Reader α) (text : List UInt8) :
    readAll? (within step r) text = readAll? r text := by
  refine Option.ext fun a => ?_
  rw [readAll?_eq_some, readAll?_eq_some, within_iff]

theorem adds_done {m : Member} (hm : m.IsMember) :
    Adds (fun key slots => Fields.done.readMember key depth slots) (Fields.done.add depth) m := by
  intro key slots rest hrest next left
  have hpass : Passes (m.item.front ++ (m.item.value ++ rest)) rest :=
    passes_spaces hm.item.front (passedOver_of_isValue hm.item.value rest hrest)
      hm.item.value.startsValue
  have hread : Fields.done.readMember key depth slots
      (m.middle ++ 0x3A :: (m.item.front ++ (m.item.value ++ rest))) = .ok (.ok ()) rest := by
    rw [Fields.readMember, bind_of_ok (colon_spaces hm.middle _),
      bind_of_ok (within_iff.mpr hpass.skipValue)]
    rfl
  constructor
  · intro h
    cases hread.symm.trans h
    exact ⟨rfl, rfl⟩
  · rintro ⟨-, rfl⟩
    exact hread

theorem adds_field {field : String} {required : Bool} {s : Shape} {m : Member} (hm : m.IsMember)
    (hsettled : Settled (s.read depth) m.item.value)
    (hadds : Adds (fun key slots => fs.readMember key depth slots) (fs.add depth) m) :
    Adds (fun key slots => (Fields.field field required s fs).readMember key depth slots)
      ((Fields.field field required s fs).add depth) m := by
  intro key slots rest hrest next left
  obtain ⟨slot, slots⟩ := slots
  simp only [Fields.readMember, Fields.add]
  by_cases hkey : key = field
  · rw [if_pos (beq_iff_eq.mpr hkey), if_pos hkey]
    cases slot with
    | some v =>
        simp [pure, EStateM.pure]
    | none =>
        have htrims : Trims (within (.key key) (s.read depth)) := by
          intro text v left
          rw [within_iff, within_iff]
          exact s.trims depth text v left
        have hwithin : Settled (within (.key key) (s.read depth)) m.item.value := by
          intro rest hrest v left
          rw [within_iff, readAll?_within]
          exact hsettled rest hrest v left
        rw [if_neg (by simp), colon_value hm htrims hwithin hrest, readAll?_within]
        simp only [Option.map_eq_some_iff, Except.ok.injEq]
  · rw [if_neg (by simpa using hkey), if_neg hkey]
    constructor
    · intro h
      obtain ⟨result, left', hread, h⟩ := exists_of_bind_ok h
      cases result with
      | error m => cases h
      | ok slots' =>
          cases h
          obtain ⟨hadd, rfl⟩ := (hadds key slots rest hrest slots' _).mp hread
          rw [hadd]
          exact ⟨rfl, rfl⟩
    · rintro ⟨h, rfl⟩
      obtain ⟨slots', hadd, rfl⟩ := Option.map_eq_some_iff.mp h
      rw [bind_of_ok ((hadds key slots left hrest slots' left).mpr ⟨hadd, rfl⟩)]
      rfl

theorem record_bracketed (hinner : IsSpaces inner) (hitems : ∀ i ∈ items, i.IsItem)
    (hread : ReadsItems fs) :
    (Shape.record name fs).read depth (bracketed inner items ++ rest) = .ok vs left ↔
      (depth - 1 ≠ 0 ∧ fs.Listed (depth - 1) items vs) ∧ left = rest := by
  have hbody : (Shape.record name fs).read depth (bracketed inner items ++ rest)
      = (do
          descend (depth - 1)
          skip
          closing endList (fs.readItems name fs.count 0 (depth - 1)) : Reader fs.Values)
          (bracketed inner items ++ rest) := by
    rw [bracketed_append, Shape.read, bind_of_ok (valueStart_cons rfl)]
    rfl
  rw [hbody, bracketed_append, descend_skip_iff, closing_iff, and_assoc]
  exact and_congr_right fun _ =>
    hread name fs.count (depth - 1) 0 [] inner rest items vs left isSpaces_nil hinner hitems

theorem settled_record {text : List UInt8} (htext : IsValue text)
    (hadds : ∀ {m : Member}, m.IsMember →
      Adds (fun key slots => fs.readMember key (depth - 1) slots) (fs.add (depth - 1)) m)
    (hitems : ReadsItems fs) : Settled ((Shape.record name fs).read depth) text := by
  cases htext with
  | @list inner items hinner hspaces hvalues =>
      exact settled_of_iff fun rest _ vs left =>
        record_bracketed hinner (isItem_of_list hspaces hvalues) hitems
  | @object inner members hinner hspaces hlabels hvalues =>
      have hmembers := isMember_of_object hspaces hlabels hvalues
      exact settled_of_iff fun rest _ vs left =>
        record_braced hinner hmembers fun m hm => hadds (hmembers m hm)
  | positive h =>
      obtain ⟨b, more, rfl, hb⟩ := h.starts
      rw [Shape.read]
      refine settled_valueStart (isSpace_of_isDigit hb) ?_
      rw [beq_of_isDigit hb rfl, beq_of_isDigit hb rfl]
      exact settled_refuse _ _
  | _ =>
      rw [Shape.read]
      exact settled_valueStart rfl (settled_refuse _ _)

end Records

mutual

/-- **What is read of any shape is settled by the text of the value.** -/
theorem Shape.settled : ∀ (s : Shape) (depth : Nat) {text : List UInt8}, IsValue text →
    Settled (s.read depth) text
  | .integer, _, _, h => settled_numeric h
  | .number, _, _, h => settled_numeric h
  | .boolean, _, _, h => settled_boolean h
  | .text, _, _, h => settled_text h
  | .any, depth, _, h => settled_value depth h
  | .optional s, depth, _, h =>
    settled_orNull h ((s.settled depth h).bind fun v => still_pure (some v))
  | .list s, depth, _, h => settled_list h (s.settled (depth - 1))
  | .listOrNull s, depth, _, h => settled_orNull h (settled_list h (s.settled (depth - 1)))
  | .record _ fs, depth, _, h => settled_record h (fs.adds_readMember (depth - 1)) fs.readsItems

/-- A member does to the slots what its name and the text of its value tell. -/
theorem Fields.adds_readMember : ∀ (fs : Fields) (depth : Nat) {m : Member}, m.IsMember →
    Adds (fun key slots => fs.readMember key depth slots) (fs.add depth) m
  | .done, _, _, hm => adds_done hm
  | .field _ _ s rest, depth, _, hm =>
    adds_field hm (s.settled depth hm.item.value) (rest.adds_readMember depth hm)

theorem Fields.readsItems : ∀ fs : Fields, ReadsItems fs
  | .done => readsItems_done
  | .field _ _ s rest => readsItems_field s.settled rest.readsItems

end

end HealthBoard.Json
