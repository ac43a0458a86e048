/-
Reading a text in one stage or in two.

A text can be read as a value of any form that is converted afterwards, or as a value of the form
wanted at once.  What the two stages give, the one gives too, and both stop at the same place
(`Shape.read_of_convert`).  There is one exception: of two members of the same name the first stage
keeps the last, while the second reader refuses them.  So no object may have two members of the same
name.

An object is the hard case, since the first stage sorts its members by their names.  It is gone
through three times: by the first stage, by passing over the values (`memberTexts`), and by the
reader of the form wanted.  The names tell which text belongs to which member and to which slot, and
the order is forgotten.
-/
import HealthBoard.Proofs.Json.Copied
import HealthBoard.Proofs.Json.RoundTrip
import HealthBoard.Proofs.Json.Slots

namespace HealthBoard.Json

open Reader

/-! ### Members of any form -/

theorem lookup_insertMember (name : String) (j : Json) (members : List (String × Json))
    (key : String) : (insertMember name j members).lookup key
      = if key = name then some j else members.lookup key := by
  have hcons : ∀ (first : String) (j : Json) (rest : List (String × Json)),
      ((first, j) :: rest).lookup key = if key = first then some j else rest.lookup key := by
    intro first j rest
    by_cases hkey : key = first
    · simp [hkey]
    · rw [List.lookup_cons, beq_eq_false_iff_ne.mpr hkey, if_neg hkey]
  induction members with
  | nil => exact hcons name j []
  | cons member members ih =>
    obtain ⟨other, old⟩ := member
    rw [insertMember]
    split
    · rename_i hother
      rw [hcons, hcons, ← eq_of_beq hother]
      by_cases hkey : key = name
      · rw [if_pos hkey, if_pos hkey]
      · rw [if_neg hkey, if_neg hkey, if_neg hkey]
    · rename_i hother
      split
      · exact hcons name j _
      · rw [hcons, hcons, ih]
        by_cases hkey : key = other
        · have hname : key ≠ name := fun heq => hother (by simp [← heq, hkey])
          rw [if_pos hkey, if_neg hname, if_pos hkey]
        · rw [if_neg hkey, if_neg hkey]

/-- The members of an object, and the texts of their values. -/
theorem memberTexts_of_readInto {depth : Nat} {left : List UInt8} :
    ∀ {fuel : Nat} {first : Bool} {text : List UInt8} {members final : List (String × Json)},
      foldMembersFrom (readInto depth) fuel first members text = .ok (.ok final) left →
      ∃ texts, memberTexts fuel first text = .ok texts left ∧
        (∀ name, name ∉ texts.map Prod.fst → final.lookup name = members.lookup name) ∧
        ((texts.map Prod.fst).Nodup → ∀ m ∈ texts, ∃ j after, final.lookup m.1 = some j ∧
          value depth m.2 = .ok j after ∧ skipValue m.2 = .ok () after) := by
  intro fuel
  induction fuel with
  | zero => intro first text members final h; cases h
  | succ fuel ih =>
    intro first text members final h
    rcases foldMembersFrom_ok h with
      ⟨hnone, rfl⟩ | ⟨more, name, named, next, after, hmember, hname, hstep, hlater⟩
    · exact ⟨[], memberTexts_nil hnone, fun name _ => rfl, fun _ m hm => nomatch hm⟩
    · obtain ⟨_, start, hcolon, hstep⟩ := exists_of_bind_ok hstep
      obtain ⟨j, after', hvalue, hstep⟩ := exists_of_bind_ok hstep
      cases hstep
      obtain ⟨texts, htexts, hother, heach⟩ := ih hlater
      have hskip := (passes_of_value hvalue).skipValue
      refine ⟨(name, start) :: texts, memberTexts_cons hmember hname hcolon hskip htexts, ?_, ?_⟩
      · intro key hkey
        obtain ⟨hne, hkey⟩ : key ≠ name ∧ key ∉ texts.map Prod.fst := by
          simpa using hkey
        rw [hother key hkey, lookup_insertMember, if_neg hne]
      · intro hdistinct m hm
        obtain ⟨hfresh, hdistinct⟩ := List.nodup_cons.mp hdistinct
        rcases List.mem_cons.mp hm with rfl | hm
        · refine ⟨j, after, ?_, hvalue, hskip⟩
          rw [hother name hfresh, lookup_insertMember, if_pos rfl]
        · exact heach hdistinct m hm

/-- The texts of the items of a list. -/
theorem itemsFrom_passed {depth : Nat} {left : List UInt8} : ∀ {fuel index : Nat}
    {text : List UInt8} {js : List Json},
    itemsFrom (fun _ => value depth) fuel index text = .ok js left →
      ∃ texts, itemsFrom (fun _ => passed) fuel index text = .ok texts left := by
  intro fuel
  induction fuel with
  | zero => intro index text js h; cases h
  | succ fuel ih =>
    intro index text js h
    rcases itemsFrom_ok h with ⟨hnone, -⟩ | ⟨start, j, after, more, hnext, hj, hmore, -⟩
    · exact ⟨[], itemsFrom_nil hnone⟩
    · obtain ⟨texts, htexts⟩ := ih hmore
      have hpassed := passed_of_skipValue (passes_of_value hj).skipValue
      exact ⟨start :: texts, itemsFrom_cons hnext hpassed htexts⟩

/-- Items that are read one by one, each text being one that `item` reads as it should. -/
theorem itemsFrom_of_convertAll {α : Type} {item : Nat → Reader α} {left : List UInt8}
    {convert : Json → Except Mismatch α} {good : List UInt8 → Prop} {depth : Nat}
    (hitem : ∀ {index start j after a}, good start → value depth start = .ok j after →
      convert j = .ok a → item index start = .ok a after) :
    ∀ {fuel index : Nat} {text : List UInt8} {js : List Json} {values : List α}
      {texts : List (List UInt8)}, itemsFrom (fun _ => value depth) fuel index text = .ok js left →
      itemsFrom (fun _ => passed) fuel index text = .ok texts left → (∀ t ∈ texts, good t) →
      convertAll convert js = .ok values → itemsFrom item fuel index text = .ok values left := by
  intro fuel
  induction fuel with
  | zero => intro index text js values texts h; cases h
  | succ fuel ih =>
    intro index text js values texts h htexts hgood hconvert
    rcases itemsFrom_ok h with ⟨hnone, rfl⟩ | ⟨start, j, after, more, hnext, hj, hmore, rfl⟩
    · cases hconvert
      exact itemsFrom_nil hnone
    · obtain ⟨a, ha, hconvert⟩ := exists_of_bind_eq_ok hconvert
      obtain ⟨values, hvalues, hconvert⟩ := exists_of_bind_eq_ok hconvert
      cases hconvert
      rcases itemsFrom_ok htexts with
        ⟨hnone, -⟩ | ⟨start', t, after', later, hnext', ht, hlater, rfl⟩
      · cases hnone.symm.trans hnext
      · cases hnext'.symm.trans hnext
        obtain ⟨rfl, hskip⟩ := passed_ok ht
        cases hskip.symm.trans (passes_of_value hj).skipValue
        have hrest := ih hmore hlater (fun t ht => hgood t (List.mem_cons_of_mem _ ht)) hvalues
        exact itemsFrom_cons hnext (hitem (hgood _ List.mem_cons_self) hj ha) hrest

/-! ### The form wanted -/

section Scalars

variable {text more left : List UInt8}

theorem boolean_true (hstart : text.dropWhile isSpace = 0x74 :: more)
    (hword : word rue more = .ok () left) : Reader.boolean text = .ok true left := by
  have hskip : skip (0x74 :: more) = .ok () more := rfl
  rw [Reader.boolean, bind_of_ok (valueStart_of_dropWhile hstart), if_pos (by rfl),
    bind_of_ok hskip, bind_of_ok hword]
  rfl

theorem boolean_false (hstart : text.dropWhile isSpace = 0x66 :: more)
    (hword : word alse more = .ok () left) : Reader.boolean text = .ok false left := by
  have hskip : skip (0x66 :: more) = .ok () more := rfl
  rw [Reader.boolean, bind_of_ok (valueStart_of_dropWhile hstart), if_neg (by decide),
    if_pos (by rfl), bind_of_ok hskip, bind_of_ok hword]
  rfl

theorem text_of_string {s : String} (hstart : text.dropWhile isSpace = 0x22 :: more)
    (hstring : string more = .ok s left) : Reader.text text = .ok s left := by
  have hskip : skip (0x22 :: more) = .ok () more := rfl
  rw [Reader.text, bind_of_ok (valueStart_of_dropWhile hstart), if_pos (by rfl),
    bind_of_ok hskip, hstring]

theorem list_of_items {α : Type} {item : Reader α} {depth : Nat} {values : List α}
    (hstart : text.dropWhile isSpace = 0x5B :: more) (hdepth : depth ≠ 0)
    (hitems : items (fun i => within (.index i) item) more = .ok values left) :
    Reader.list (depth + 1) item text = .ok values left := by
  have hskip : skip (0x5B :: more) = .ok () more := rfl
  have hdescend : descend (depth + 1 - 1) (0x5B :: more) = .ok () (0x5B :: more) := by
    rw [descend, Nat.add_sub_cancel, if_neg (by simpa using hdepth)]
    rfl
  rw [Reader.list, bind_of_ok (valueStart_of_dropWhile hstart), if_pos (by rfl),
    bind_of_ok hdescend, bind_of_ok hskip, hitems]

end Scalars

/-- A number that was read as a value is read as a number. -/
theorem numeric_of_value {α : Type} {wanted : String} {accept : Json → Except Mismatch α}
    {depth : Nat} {text left : List UInt8} {j : Json} {a : α} (hj : IsNumber j)
    (h : value depth text = .ok j left) (haccept : accept j = .ok a) :
    numeric wanted accept text = .ok a left := by
  cases depth with
  | zero => cases h
  | succ depth =>
    cases isRead_of_value h with
    | negative hstart hnumber => exact numeric_minus hstart hnumber haccept
    | positive _ hstart hnumber => exact numeric_plain hstart hnumber haccept
    | _ => cases hj

theorem isNumber_of_asInteger {j : Json} {n : Int64} (h : asInteger j = .ok n) : IsNumber j := by
  cases j with
  | int n => trivial
  | float x => trivial
  | _ => cases h

theorem isNumber_of_asNumber {j : Json} {x : Float} (h : asNumber j = .ok x) : IsNumber j := by
  cases j with
  | int n => trivial
  | float x => trivial
  | _ => cases h

theorem boolean_of_value {depth : Nat} {text left : List UInt8} {b : Bool}
    (h : value depth text = .ok (.bool b) left) : Reader.boolean text = .ok b left := by
  cases depth with
  | zero => cases h
  | succ depth =>
    cases isRead_of_value h with
    | true hstart hword => exact boolean_true hstart hword
    | false hstart hword => exact boolean_false hstart hword
    | negative _ hnumber => cases isNumber_of_number hnumber
    | positive _ _ hnumber => cases isNumber_of_number hnumber

theorem text_of_value {depth : Nat} {text left : List UInt8} {s : String}
    (h : value depth text = .ok (.str s) left) : Reader.text text = .ok s left := by
  cases depth with
  | zero => cases h
  | succ depth =>
    cases isRead_of_value h with
    | text hstart hstring => exact text_of_string hstart hstring
    | negative _ hnumber => cases isNumber_of_number hnumber
    | positive _ _ hnumber => cases isNumber_of_number hnumber

section Records

variable {name : String} {fs : Fields} {depth : Nat} {text more rest left : List UInt8}
  {vs : fs.Values}

theorem descend_of_ne_zero (hdepth : depth ≠ 0) : descend (depth + 1 - 1) text = .ok () text := by
  rw [descend, Nat.add_sub_cancel, if_neg (by simpa using hdepth)]
  rfl

theorem record_of_members {slots : fs.Slots} (hstart : text.dropWhile isSpace = 0x7B :: more)
    (hdepth : depth ≠ 0)
    (hfold : foldMembers (fun key slots => fs.readMember key depth slots) fs.unmet more
      = .ok (.ok slots) rest)
    (hcomplete : fs.complete slots = .ok vs) (hend : endObject rest = .ok () left) :
    (Shape.record name fs).read (depth + 1) text = .ok vs left := by
  have hskip : skip (0x7B :: more) = .ok () more := rfl
  rw [Shape.read, bind_of_ok (valueStart_of_dropWhile hstart), if_neg (by decide),
    if_pos (by decide), bind_of_ok (descend_of_ne_zero hdepth), bind_of_ok hskip, closing,
    Nat.add_sub_cancel, bind_of_ok hfold]
  simp only [hcomplete]
  exact bind_of_ok hend

theorem record_of_items (hstart : text.dropWhile isSpace = 0x5B :: more) (hdepth : depth ≠ 0)
    (hitems : fs.readItems name fs.count 0 depth more = .ok (.ok vs) rest)
    (hend : endList rest = .ok () left) :
    (Shape.record name fs).read (depth + 1) text = .ok vs left := by
  have hskip : skip (0x5B :: more) = .ok () more := rfl
  rw [Shape.read, bind_of_ok (valueStart_of_dropWhile hstart), if_pos (by decide),
    bind_of_ok (descend_of_ne_zero hdepth), bind_of_ok hskip, closing, Nat.add_sub_cancel, hitems]
  exact bind_of_ok hend

/-- A record that was read, from a list of its values or from an object. -/
theorem record_ok (h : (Shape.record name fs).read (depth + 1) text = .ok vs left) :
    depth ≠ 0 ∧
      ((∃ more rest, text.dropWhile isSpace = 0x5B :: more ∧
        fs.readItems name fs.count 0 depth more = .ok (.ok vs) rest ∧
        endList rest = .ok () left) ∨
      ∃ more rest slots, text.dropWhile isSpace = 0x7B :: more ∧
        foldMembers (fun key slots => fs.readMember key depth slots) fs.unmet more
          = .ok (.ok slots) rest ∧
        fs.complete slots = .ok vs ∧ endObject rest = .ok () left) := by
  rw [Shape.read] at h
  obtain ⟨b, start, hpeek, h⟩ := exists_of_bind_ok h
  obtain ⟨more, rfl, hstart⟩ := valueStart_ok hpeek
  split at h
  · rename_i hb
    cases eq_of_beq hb
    obtain ⟨_, start, hdescend, h⟩ := exists_of_bind_ok h
    obtain ⟨hdepth, rfl⟩ := descend_ok hdescend
    obtain ⟨_, _, hskip, h⟩ := exists_of_bind_ok (r := skip) h
    cases hskip
    obtain ⟨rest, hitems, hend⟩ := closing_ok h
    exact ⟨hdepth, .inl ⟨more, rest, hstart, hitems, hend⟩⟩
  split at h
  · rename_i hb
    cases eq_of_beq hb
    obtain ⟨_, start, hdescend, h⟩ := exists_of_bind_ok h
    obtain ⟨hdepth, rfl⟩ := descend_ok hdescend
    obtain ⟨_, _, hskip, h⟩ := exists_of_bind_ok (r := skip) h
    cases hskip
    obtain ⟨rest, hmembers, hend⟩ := closing_ok h
    obtain ⟨result, rest', hfold, hmembers⟩ := exists_of_bind_ok hmembers
    cases result with
    | error m => cases hmembers
    | ok slots =>
      injection hmembers with hcomplete hrest
      subst hrest
      exact ⟨hdepth, .inr ⟨more, _, slots, hstart, hfold, hcomplete, hend⟩⟩
  · exact absurd h (complains_refuse _ _ _ _)

/-- One value of a record that is given as a list: it is there, or it has a default. -/
theorem readItems_ok {record field : String} {total index : Nat} {required : Bool} {s : Shape}
    {v : s.Value}
    (h : (Fields.field field required s fs).readItems record total index depth text
      = .ok (.ok (v, vs)) left) :
    (∃ start after, hasItem (index == 0) text = .ok true start ∧ s.read depth start = .ok v after ∧
      fs.readItems record total (index + 1) depth after = .ok (.ok vs) left) ∨
    ∃ after, hasItem (index == 0) text = .ok false after ∧ required = false ∧ v = s.blank ∧
      fs.readItems record total (index + 1) depth after = .ok (.ok vs) left := by
  rw [Fields.readItems] at h
  obtain ⟨found, start, hnext, h⟩ := exists_of_bind_ok h
  cases found with
  | true =>
    rw [if_pos rfl] at h
    obtain ⟨w, after, hread, h⟩ := exists_of_bind_ok h
    obtain ⟨result, left', hrest, h⟩ := exists_of_bind_ok h
    cases result with
    | error m => cases h
    | ok ws =>
      cases h
      exact .inl ⟨start, after, hnext, within_ok hread, hrest⟩
  | false =>
    rw [if_neg (by simp)] at h
    split at h
    · cases h
    rename_i hdefault
    obtain ⟨result, left', hrest, h⟩ := exists_of_bind_ok h
    cases result with
    | error m => cases h
    | ok ws =>
      cases h
      exact .inr ⟨start, hnext, by simpa using hdefault, rfl, hrest⟩

theorem readItems_cons {record field : String} {total index : Nat} {required : Bool} {s : Shape}
    {v : s.Value} {start after : List UInt8} (hnext : hasItem (index == 0) text = .ok true start)
    (hread : s.read depth start = .ok v after)
    (hrest : fs.readItems record total (index + 1) depth after = .ok (.ok vs) left) :
    (Fields.field field required s fs).readItems record total index depth text
      = .ok (.ok (v, vs)) left := by
  have hwithin : within (.index index) (s.read depth) start = .ok v after := by
    rw [within, hread]
  rw [Fields.readItems, bind_of_ok hnext, if_pos rfl, bind_of_ok hwithin, bind_of_ok hrest]
  rfl

theorem readItems_nil {record field : String} {total index : Nat} {s : Shape} {after : List UInt8}
    (hnone : hasItem (index == 0) text = .ok false after)
    (hrest : fs.readItems record total (index + 1) depth after = .ok (.ok vs) left) :
    (Fields.field field false s fs).readItems record total index depth text
      = .ok (.ok (s.blank, vs)) left := by
  rw [Fields.readItems, bind_of_ok hnone, if_neg (by simp), if_neg (by simp), bind_of_ok hrest]
  rfl

end Records

section Lists

variable {depth levels : Nat} {text left : List UInt8}

/-- A list whose items are read at once. -/
theorem list_of_value {s : Shape} {js : List Json} {vs : List s.Value}
    (hread : ∀ {text left j v}, distinctNames levels text = true →
      value depth text = .ok j left → s.convert j = .ok v → s.read depth text = .ok v left)
    (hdistinct : distinctNames (levels + 1) text = true)
    (hvalue : value (depth + 1) text = .ok (.arr js) left)
    (hconvert : convertAll s.convert js = .ok vs) :
    ∃ more, text.dropWhile isSpace = 0x5B :: more ∧ depth ≠ 0 ∧
      items (fun i => within (.index i) (s.read depth)) more = .ok vs left := by
  cases isRead_of_value hvalue with
  | list hstart hdepth hitems =>
    obtain ⟨rest, hitems, hend⟩ := items_ok hitems
    obtain ⟨texts, htexts⟩ := itemsFrom_passed hitems
    refine ⟨_, hstart, hdepth, items_of_itemsFrom ?_ hend⟩
    have hinside := (distinctNames_succ_iff.mp hdistinct).2 hstart htexts
    refine itemsFrom_of_convertAll ?_ hitems htexts hinside hconvert
    intro index start j after v hgood hj hv
    rw [within, hread hgood hj hv]
  | negative _ hnumber => cases isNumber_of_number hnumber
  | positive _ _ hnumber => cases isNumber_of_number hnumber

end Lists

/-- What a reader of truth values reads can be passed over. -/
theorem passes_of_boolean {text left : List UInt8} {b : Bool}
    (h : Reader.boolean text = .ok b left) : Passes text left := by
  obtain ⟨c, start, hpeek, h⟩ := exists_of_bind_ok h
  obtain ⟨more, rfl, hstart⟩ := valueStart_ok hpeek
  split at h
  · rename_i hc
    cases eq_of_beq hc
    obtain ⟨_, left', hword, h⟩ := exists_of_bind_ok (r := word rue) h
    cases h
    exact passes_true hstart hword
  split at h
  · rename_i hc
    cases eq_of_beq hc
    obtain ⟨_, left', hword, h⟩ := exists_of_bind_ok (r := word alse) h
    cases h
    exact passes_false hstart hword
  · exact absurd h (complains_refuse _ _ _ _)

theorem passes_of_text {text left : List UInt8} {s : String}
    (h : Reader.text text = .ok s left) : Passes text left := by
  obtain ⟨c, start, hpeek, h⟩ := exists_of_bind_ok h
  obtain ⟨more, rfl, hstart⟩ := valueStart_ok hpeek
  split at h
  · rename_i hc
    cases eq_of_beq hc
    have hstring : string more = .ok s left := h
    exact passes_of_string hstart hstring
  · exact absurd h (complains_refuse _ _ _ _)

mutual

/-- **What is read as any value and then converted is read at once as well.** -/
theorem Shape.read_of_convert : ∀ (s : Shape) {depth levels : Nat} {text left : List UInt8}
    {j : Json} {v : s.Value}, s.IsPlain → s.height ≤ levels →
    distinctNames levels text = true → value depth text = .ok j left → s.convert j = .ok v →
    s.read depth text = .ok v left
  | .integer, _, _, _, _, _, _, _, _, _, hvalue, hconvert =>
      numeric_of_value (isNumber_of_asInteger hconvert) hvalue hconvert
  | .number, _, _, _, _, _, _, _, _, _, hvalue, hconvert =>
      numeric_of_value (isNumber_of_asNumber hconvert) hvalue hconvert
  | .boolean, _, _, _, _, .bool _, _, _, _, _, hvalue, rfl => boolean_of_value hvalue
  | .text, _, _, _, _, .str _, _, _, _, _, hvalue, rfl => text_of_value hvalue
  | .list s, depth + 1, levels + 1, text, left, .arr js, vs, hplain, hheight, hdistinct, hvalue,
      hconvert => by
    have hread : ∀ {text left j v}, distinctNames levels text = true →
        value depth text = .ok j left → s.convert j = .ok v → s.read depth text = .ok v left :=
      s.read_of_convert hplain (Nat.le_of_succ_le_succ hheight)
    obtain ⟨more, hstart, hdepth, hitems⟩ := list_of_value hread hdistinct hvalue hconvert
    exact list_of_items hstart hdepth hitems
  | .listOrNull s, depth + 1, levels + 1, text, left, .null, vs, hplain, hheight, hdistinct, hvalue,
      hconvert => by
    cases hconvert
    cases isRead_of_value hvalue with
    | null hstart hword =>
      rename_i more
      have hskip : skip (0x6E :: more) = .ok () more := rfl
      rw [Shape.read, orNull, bind_of_ok (peekToken_of_dropWhile hstart)]
      show (skip >>= _) (0x6E :: more) = _
      rw [bind_of_ok hskip, bind_of_ok hword]
      rfl
    | negative _ hnumber => cases isNumber_of_number hnumber
    | positive _ _ hnumber => cases isNumber_of_number hnumber
  | .listOrNull s, depth + 1, levels + 1, text, left, .arr js, vs, hplain, hheight, hdistinct,
      hvalue, hconvert => by
    have hread : ∀ {text left j v}, distinctNames levels text = true →
        value depth text = .ok j left → s.convert j = .ok v → s.read depth text = .ok v left :=
      s.read_of_convert hplain (Nat.le_of_succ_le_succ hheight)
    obtain ⟨more, hstart, hdepth, hitems⟩ := list_of_value hread hdistinct hvalue hconvert
    rw [Shape.read, orNull, bind_of_ok (peekToken_of_dropWhile hstart)]
    have hsame : (0x5B :: more).dropWhile isSpace = 0x5B :: more := rfl
    exact list_of_items hsame hdepth hitems
  | .record name fs, depth + 1, levels + 1, text, left, .arr js, vs, hplain, hheight, hdistinct,
      hvalue, hconvert => by
    rw [Shape.convert] at hconvert
    obtain ⟨⟨values, unused⟩, hitems, hconvert⟩ := exists_of_bind_eq_ok hconvert
    cases isRead_of_value hvalue with
    | list hstart hdepth hall =>
      obtain ⟨rest, hall, hend⟩ := items_ok hall
      obtain ⟨texts, htexts⟩ := itemsFrom_passed hall
      have hinside := (distinctNames_succ_iff.mp hdistinct).2 hstart htexts
      simp only at hconvert
      split at hconvert
      · rename_i hunused
        cases hconvert
        rw [List.isEmpty_iff.mp hunused] at hitems
        obtain ⟨rest', hread, hend⟩ := fs.readItems_of_convertItems hplain.2
          (Nat.le_of_succ_le_succ hheight) hall htexts hinside hend hitems
        exact record_of_items hstart hdepth hread hend
      · cases hconvert
    | negative _ hnumber => cases isNumber_of_number hnumber
    | positive _ _ hnumber => cases isNumber_of_number hnumber
  | .record name fs, depth + 1, levels + 1, text, left, .obj members, vs, hplain, hheight,
      hdistinct, hvalue, hconvert => by
    rw [Shape.convert] at hconvert
    obtain ⟨slots, hslots, hcomplete⟩ := exists_of_bind_eq_ok hconvert
    cases isRead_of_value hvalue with
    | object hstart hdepth hmembers =>
      obtain ⟨rest, hfold, hend⟩ := closing_ok hmembers
      obtain ⟨texts, htexts, hother, heach⟩ := memberTexts_of_readInto hfold
      obtain ⟨hnodup, hinside⟩ := (distinctNames_succ_iff.mp hdistinct).1 hstart htexts
      have hmet := fs.met_unmet.convertMembers hplain.1 hslots
      have hsupplied := fs.supplied_of_met hplain.2 (Nat.le_of_succ_le_succ hheight) hnodup
        hinside (fun name hname => by rw [Option.none_or, hother name hname]; rfl)
        (by simpa using heach hnodup) hmet
      have hread := hsupplied.foldMembers hplain.1 htexts hnodup
      exact record_of_members hstart hdepth hread hcomplete hend
    | negative _ hnumber => cases isNumber_of_number hnumber
    | positive _ _ hnumber => cases isNumber_of_number hnumber

/-- The slots that the converted members fill are those that the texts of the members give. -/
theorem Fields.supplied_of_met : ∀ (fs : Fields) {depth levels : Nat}
    {texts : List (String × List UInt8)} {found : String → Option Json} {slots : fs.Slots},
    fs.ArePlain → fs.height ≤ levels → (texts.map Prod.fst).Nodup →
    (∀ m ∈ texts, distinctNames levels m.2 = true) →
    (∀ name, name ∉ texts.map Prod.fst → found name = none) →
    (∀ m ∈ texts, ∃ j after, found m.1 = some j ∧ value depth m.2 = .ok j after ∧
      skipValue m.2 = .ok () after) →
    fs.Met slots found → fs.Supplied depth texts slots
  | .done, _, _, _, _, _, _, _, _, _, _, _, _ => trivial
  | .field name _ s rest, depth, levels, texts, found, (slot, slots), hplain, hheight, hnodup,
      hdistinct, hother, heach, hmet => by
    refine ⟨?_, rest.supplied_of_met hplain.2 (Nat.le_trans (Nat.le_max_right _ _) hheight) hnodup
      hdistinct hother heach hmet.2⟩
    cases hlookup : texts.lookup name with
    | none =>
      have hmem : name ∉ texts.map Prod.fst := by
        intro hmem
        obtain ⟨m, hm, rfl⟩ := List.mem_map.mp hmem
        rw [Fields.lookup_of_mem hnodup m hm] at hlookup
        cases hlookup
      cases slot with
      | none => rfl
      | some v =>
        obtain ⟨j, hfound, -⟩ := hmet.1
        rw [hother name hmem] at hfound
        cases hfound
    | some text =>
      obtain ⟨front, back, htexts, -⟩ := List.lookup_eq_some_iff.mp hlookup
      have hmem : (name, text) ∈ texts := by rw [htexts]; simp
      obtain ⟨j, after, hfound, hvalue, hskip⟩ := heach _ hmem
      cases slot with
      | none =>
        rw [show found name = none from hmet.1] at hfound
        cases hfound
      | some v =>
        obtain ⟨j', hfound', hconvert⟩ := hmet.1
        cases hfound.symm.trans hfound'
        have hread := s.read_of_convert hplain.1 (Nat.le_trans (Nat.le_max_left _ _) hheight)
          (hdistinct _ hmem) hvalue hconvert
        exact ⟨v, after, rfl, hread, hskip⟩

/-- A record that is given as a list. -/
theorem Fields.readItems_of_convertItems {record : String} {total : Nat} : ∀ (fs : Fields)
    {depth levels fuel index : Nat} {text rest left : List UInt8} {js : List Json}
    {texts : List (List UInt8)} {vs : fs.Values}, fs.ArePlain → fs.height ≤ levels →
    itemsFrom (fun _ => value depth) fuel index text = .ok js rest →
    itemsFrom (fun _ => passed) fuel index text = .ok texts rest →
    (∀ t ∈ texts, distinctNames levels t = true) → endList rest = .ok () left →
    fs.convertItems record total index js = .ok (vs, []) →
    ∃ rest', fs.readItems record total index depth text = .ok (.ok vs) rest' ∧
      endList rest' = .ok () left
  | .done, depth, levels, fuel + 1, index, text, rest, left, js, texts, (), _, _, hitems, _, _,
      hend, hconvert => by
    cases hconvert
    refine ⟨text, rfl, ?_⟩
    rcases itemsFrom_ok hitems with ⟨hnone, -⟩ | ⟨_, _, _, _, _, _, _, h⟩
    · obtain ⟨-, more, htext, rfl⟩ | ⟨h, -⟩ | ⟨h, -⟩ := hasItem_ok hnone
      · cases endList_ok hend
        exact endList_of_dropWhile htext
      · cases h
      · cases h
    · cases h
  | .field name required s fs, depth, levels, fuel + 1, index, text, rest, left, js, texts, (v, vs),
      hplain, hheight, hitems, htexts, hdistinct, hend, hconvert => by
    have hfs : fs.height ≤ levels := Nat.le_trans (Nat.le_max_right _ _) hheight
    rcases itemsFrom_ok hitems with ⟨hnone, rfl⟩ | ⟨start, j, after, more, hnext, hj, hmore, rfl⟩
    · obtain ⟨-, more, -, rfl⟩ | ⟨h, -⟩ | ⟨h, -⟩ := hasItem_ok hnone
      · rw [Fields.convertItems] at hconvert
        split at hconvert
        · cases hconvert
        rename_i hdefault
        obtain ⟨⟨vs', unused⟩, hrest, hconvert⟩ := exists_of_bind_eq_ok hconvert
        cases hconvert
        have hnone' : ∀ {α : Type} {item : Nat → Reader α},
            itemsFrom item 1 (index + 1) (0x5D :: more) = .ok [] (0x5D :: more) :=
          itemsFrom_nil (hasItem_end _ rfl)
        obtain ⟨rest', hread, hend⟩ := fs.readItems_of_convertItems hplain.2 hfs hnone' hnone'
          (fun t ht => nomatch ht) hend hrest
        have hoptional : required = false := by simpa using hdefault
        subst hoptional
        exact ⟨rest', readItems_nil hnone hread, hend⟩
      · cases h
      · cases h
    · obtain ⟨w, hw, hconvert⟩ := exists_of_bind_eq_ok hconvert
      obtain ⟨⟨vs', unused⟩, hrest, hconvert⟩ := exists_of_bind_eq_ok hconvert
      cases hconvert
      rcases itemsFrom_ok htexts with ⟨hnone, -⟩ | ⟨_, t, after', later, hnext', ht, hlater, rfl⟩
      · cases hnone.symm.trans hnext
      · cases hnext'.symm.trans hnext
        obtain ⟨rfl, hskip⟩ := passed_ok ht
        cases hskip.symm.trans (passes_of_value hj).skipValue
        have hread := s.read_of_convert hplain.1 (Nat.le_trans (Nat.le_max_left _ _) hheight)
          (hdistinct _ List.mem_cons_self) hj hw
        obtain ⟨rest', hreads, hend⟩ := fs.readItems_of_convertItems hplain.2 hfs hmore hlater
          (fun t ht => hdistinct t (List.mem_cons_of_mem _ ht)) hend hrest
        exact ⟨rest', readItems_cons hnext hread hreads, hend⟩

end

end HealthBoard.Json
