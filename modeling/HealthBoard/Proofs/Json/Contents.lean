/-
What a list or an object says is what its parts say.

The items of a list are read one by one, each from its own text (`items_bracketed`).  So are the
members of an object, and what they do one after the other is done by one function on names and
texts, with no reader between them (`foldTexts`, `closing_braced`).  With that, a value of any form
is settled by its text: by induction on the levels of nesting that are allowed.
-/
import HealthBoard.Proofs.Json.Settled

namespace HealthBoard.Json

open Reader

variable {α β : Type}

/-! ### Lists -/

section Lists

variable {inner back rest left : List UInt8} {first : Bool}

theorem hasItem_separated_nil (hback : IsSpaces back) (hinner : IsSpaces inner) :
    hasItem first (back ++ (inner ++ 0x5D :: rest)) = .ok false (0x5D :: rest) := by
  refine hasItem_end first ?_
  rw [dropWhile_spaces hback]
  exact dropWhile_token hinner rfl

theorem hasItem_separated_cons (hback : IsSpaces back) {i : Item} (hi : i.IsItem)
    (more : List Item) :
    hasItem first (back ++ (separated first ((i :: more).map Item.text) ++ rest))
      = .ok true (i.value ++ (i.back ++ (separated false (more.map Item.text) ++ rest))) := by
  have hstart := hi.value.startsValue
  rw [List.map_cons]
  cases first with
  | true =>
      rw [separated_first, Item.text_append]
      refine hasItem_first hstart ?_
      rw [dropWhile_spaces hback, dropWhile_spaces hi.front, hstart.dropWhile]
  | false =>
      rw [separated_next, Item.text_append]
      refine hasItem_further hstart (dropWhile_token hback rfl) ?_
      rw [dropWhile_spaces hi.front, hstart.dropWhile]

variable {item : Nat → Reader α} {r : Reader α} {items : List Item}

/-- The items of a list are read one by one, each from its own text. -/
theorem itemsFrom_separated (hinner : IsSpaces inner) (hitems : ∀ i ∈ items, i.IsItem)
    (hitem : ∀ index text a left, item index text = .ok a left ↔ r text = .ok a left)
    (hsettled : ∀ i ∈ items, Settled r i.value) :
    ∀ (fuel index : Nat) (back : List UInt8) (all : List α), IsSpaces back → items.length < fuel →
      (itemsFrom item fuel index (back ++ (separated (index == 0) (items.map Item.text)
          ++ (inner ++ 0x5D :: rest))) = .ok all left ↔
        items.mapM (fun i => readAll? r i.value) = some all ∧ left = 0x5D :: rest) := by
  induction items with
  | nil =>
      intro fuel index back all hback hfuel
      obtain ⟨fuel, rfl⟩ := Nat.exists_eq_add_one_of_ne_zero (Nat.ne_zero_of_lt hfuel)
      have hnone : itemsFrom item (fuel + 1) index (back ++ (inner ++ 0x5D :: rest))
          = .ok [] (0x5D :: rest) := itemsFrom_nil (hasItem_separated_nil hback hinner)
      rw [List.map_nil, separated_nil, List.nil_append, hnone]
      simp [eq_comm]
  | cons i more ih =>
      intro fuel index back all hback hfuel
      obtain ⟨fuel, rfl⟩ := Nat.exists_eq_add_one_of_ne_zero (Nat.ne_zero_of_lt hfuel)
      obtain ⟨hi, hmore⟩ := List.forall_mem_cons.mp hitems
      obtain ⟨hvalue, hsettled⟩ := List.forall_mem_cons.mp hsettled
      have hnext : hasItem (index == 0) (back ++ (separated (index == 0) ((i :: more).map Item.text)
            ++ (inner ++ 0x5D :: rest)))
          = .ok true (i.value ++ (i.back ++ (separated false (more.map Item.text)
            ++ (inner ++ 0x5D :: rest)))) := hasItem_separated_cons hback hi more
      have hbehind := hi.behind hinner more rest
      have hlater := fun all' =>
        ih hmore hsettled fuel (index + 1) i.back all' hi.back (Nat.lt_of_succ_lt_succ hfuel)
      rw [List.mapM_cons]
      simp only [Option.bind_eq_bind, Option.pure_def, Option.bind_eq_some_iff, Option.some.injEq]
      constructor
      · intro h
        rcases itemsFrom_ok h with ⟨hnone, -⟩ | ⟨start, a, after, all', hfound, ha, hrest, rfl⟩
        · cases hnext.symm.trans hnone
        · cases hnext.symm.trans hfound
          obtain ⟨hall, rfl⟩ := (hvalue _ hbehind a after).mp ((hitem index _ a after).mp ha)
          obtain ⟨heach, hleft⟩ := (hlater all').mp hrest
          exact ⟨⟨a, hall, all', heach, rfl⟩, hleft⟩
      · rintro ⟨⟨a, hall, all', heach, rfl⟩, rfl⟩
        have ha := (hitem index _ a _).mpr ((hvalue _ hbehind a _).mpr ⟨hall, rfl⟩)
        exact itemsFrom_cons hnext ha ((hlater all').mpr ⟨heach, rfl⟩)

/-- Texts that are not empty are no more than the bytes they make up. -/
theorem length_le_separated {texts : List (List UInt8)} (h : ∀ text ∈ texts, 0 < text.length) :
    ∀ first, texts.length ≤ (separated first texts).length := by
  induction texts with
  | nil => exact fun first => Nat.zero_le _
  | cons text more ih =>
      intro first
      obtain ⟨htext, hmore⟩ := List.forall_mem_cons.mp h
      have hrest := ih hmore false
      cases first <;> simp only [separated, List.length_cons, List.length_append] <;> omega

theorem items_bracketed (hinner : IsSpaces inner) (hitems : ∀ i ∈ items, i.IsItem)
    (hitem : ∀ index text a left, item index text = .ok a left ↔ r text = .ok a left)
    (hsettled : ∀ i ∈ items, Settled r i.value) {all : List α} :
    Reader.items item (separated true (items.map Item.text) ++ (inner ++ 0x5D :: rest))
        = .ok all left ↔
      items.mapM (fun i => readAll? r i.value) = some all ∧ left = rest := by
  have hfuel : items.length
      < (separated true (items.map Item.text) ++ (inner ++ 0x5D :: rest)).length + 1 := by
    have htexts : ∀ text ∈ items.map Item.text, 0 < text.length := by
      intro text htext
      obtain ⟨i, hi, rfl⟩ := List.mem_map.mp htext
      obtain ⟨b, more, hvalue, -⟩ := (hitems i hi).value.startsValue
      simp only [Item.text, hvalue, List.length_append, List.length_cons]
      omega
    have hlength := length_le_separated htexts true
    rw [List.length_map] at hlength
    rw [List.length_append]
    omega
  have hread (after : List UInt8) :
      itemsFrom item _ 0 (separated true (items.map Item.text) ++ (inner ++ 0x5D :: rest))
          = .ok all after ↔
        items.mapM (fun i => readAll? r i.value) = some all ∧ after = 0x5D :: rest :=
    itemsFrom_separated hinner hitems hitem hsettled _ 0 [] all isSpaces_nil hfuel
  constructor
  · intro h
    obtain ⟨after, hall, hend⟩ := items_ok h
    obtain ⟨heach, rfl⟩ := (hread after).mp hall
    cases endList_ok hend
    exact ⟨heach, rfl⟩
  · rintro ⟨heach, rfl⟩
    exact items_of_itemsFrom ((hread _).mpr ⟨heach, rfl⟩) endList_cons

end Lists

/-! ### Objects -/

/--
What the members of an object do one after the other: each adds to a state what its name and the
text of its value tell, unless its label is no text or it may not be added.
-/
def foldTexts {σ : Type} (add : String → List UInt8 → σ → Option σ) : List Member → σ → Option σ
  | [], state => some state
  | m :: more, state => do
    let name ← m.name?
    let next ← add name m.item.value state
    foldTexts add more next

section Objects

variable {inner back rest left : List UInt8} {first : Bool}

theorem hasMember_separated_nil (hback : IsSpaces back) (hinner : IsSpaces inner) :
    hasMember first (back ++ (inner ++ 0x7D :: rest)) = .ok false (0x7D :: rest) := by
  refine hasMember_end first ?_
  rw [dropWhile_spaces hback]
  exact dropWhile_token hinner rfl

theorem hasMember_separated_cons (hback : IsSpaces back) {m : Member} (hm : m.IsMember)
    (more : List Member) :
    hasMember first (back ++ (separated first ((m :: more).map Member.text) ++ rest))
      = .ok true (0x22 :: (m.label ++ 0x22 :: (m.middle ++ 0x3A ::
          (m.item.front ++ (m.item.value ++ (m.item.back ++
            (separated false (more.map Member.text) ++ rest))))))) := by
  rw [List.map_cons]
  cases first with
  | true =>
      rw [separated_first, Member.text_append]
      refine hasMember_first ?_
      rw [dropWhile_spaces hback]
      exact dropWhile_token hm.front rfl
  | false =>
      rw [separated_next, Member.text_append]
      exact hasMember_further (dropWhile_token hback rfl) (dropWhile_token hm.front rfl)

variable {ε σ : Type} {step : String → σ → Reader (Except ε σ)}
  {add : String → List UInt8 → σ → Option σ} {members : List Member}

/-- The step does to the state what is said of the name and the text of the value. -/
def Adds (step : String → σ → Reader (Except ε σ)) (add : String → List UInt8 → σ → Option σ)
    (m : Member) : Prop :=
  ∀ name state rest, Behind rest → ∀ next left,
    step name state (m.middle ++ 0x3A :: (m.item.front ++ (m.item.value ++ rest)))
        = .ok (.ok next) left ↔
      add name m.item.value state = some next ∧ left = rest

/-- **The members of an object are read one by one**, each from its own text. -/
theorem foldMembersFrom_separated (hinner : IsSpaces inner)
    (hmembers : ∀ m ∈ members, m.IsMember) (hadds : ∀ m ∈ members, Adds step add m) :
    ∀ (fuel : Nat) (first : Bool) (back : List UInt8) (state final : σ), IsSpaces back →
      members.length < fuel →
      (foldMembersFrom step fuel first state (back ++ (separated first (members.map Member.text)
          ++ (inner ++ 0x7D :: rest))) = .ok (.ok final) left ↔
        foldTexts add members state = some final ∧ left = 0x7D :: rest) := by
  induction members with
  | nil =>
      intro fuel first back state final hback hfuel
      obtain ⟨fuel, rfl⟩ := Nat.exists_eq_add_one_of_ne_zero (Nat.ne_zero_of_lt hfuel)
      have hnone : foldMembersFrom step (fuel + 1) first state (back ++ (inner ++ 0x7D :: rest))
          = .ok (.ok state) (0x7D :: rest) :=
        foldMembersFrom_nil (hasMember_separated_nil hback hinner)
      rw [List.map_nil, separated_nil, List.nil_append, hnone, foldTexts]
      simp [eq_comm]
  | cons m more ih =>
      intro fuel first back state final hback hfuel
      obtain ⟨fuel, rfl⟩ := Nat.exists_eq_add_one_of_ne_zero (Nat.ne_zero_of_lt hfuel)
      obtain ⟨hm, hmore⟩ := List.forall_mem_cons.mp hmembers
      obtain ⟨hadd, hadds⟩ := List.forall_mem_cons.mp hadds
      have hnext : hasMember first (back ++ (separated first ((m :: more).map Member.text)
            ++ (inner ++ 0x7D :: rest))) = .ok true _ := hasMember_separated_cons hback hm more
      have hbehind := hm.behind hinner more rest
      have hlater := fun next =>
        ih hmore hadds fuel false m.item.back next final hm.item.back
          (Nat.lt_of_succ_lt_succ hfuel)
      simp only [foldTexts, Option.bind_eq_bind, Option.bind_eq_some_iff]
      constructor
      · intro h
        rcases foldMembersFrom_ok h with
          ⟨hnone, -⟩ | ⟨quoted, name, named, next, after, hfound, hname, hstep, hrest⟩
        · cases hnext.symm.trans hnone
        · cases hnext.symm.trans hfound
          obtain ⟨hlabel, rfl⟩ := (string_append hm.label _).mp hname
          obtain ⟨hadded, rfl⟩ := (hadd name state _ hbehind next after).mp hstep
          obtain ⟨hfinal, hleft⟩ := (hlater next).mp hrest
          exact ⟨⟨name, hlabel, next, hadded, hfinal⟩, hleft⟩
      · rintro ⟨⟨name, hname, next, hadded, hfinal⟩, rfl⟩
        exact foldMembersFrom_cons hnext ((string_append hm.label _).mpr ⟨hname, rfl⟩)
          ((hadd name state _ hbehind next _).mpr ⟨hadded, rfl⟩) ((hlater next).mpr ⟨hfinal, rfl⟩)

theorem foldMembers_braced (hinner : IsSpaces inner) (hmembers : ∀ m ∈ members, m.IsMember)
    (hadds : ∀ m ∈ members, Adds step add m) {state final : σ} :
    foldMembers step state (separated true (members.map Member.text) ++ (inner ++ 0x7D :: rest))
        = .ok (.ok final) left ↔
      foldTexts add members state = some final ∧ left = 0x7D :: rest := by
  have htexts : ∀ text ∈ members.map Member.text, 0 < text.length := by
    intro text htext
    obtain ⟨m, -, rfl⟩ := List.mem_map.mp htext
    simp only [Member.text, List.length_append, List.length_cons]
    omega
  have hlength := length_le_separated htexts true
  refine foldMembersFrom_separated hinner hmembers hadds _ true [] state final isSpaces_nil ?_
  rw [List.length_map] at hlength
  rw [List.length_append]
  omega

theorem closing_iff {a : σ} {close : Reader Unit} {body : Reader (Except Mismatch σ)}
    {text : List UInt8} : closing close body text = .ok a left ↔
      ∃ rest, body text = .ok (.ok a) rest ∧ close rest = .ok () left := by
  refine ⟨closing_ok, ?_⟩
  rintro ⟨rest, hbody, hclose⟩
  rw [closing, hbody]
  exact bind_of_ok hclose

theorem closing_braced {step : String → σ → Reader (Except Mismatch σ)} (hinner : IsSpaces inner)
    (hmembers : ∀ m ∈ members, m.IsMember) (hadds : ∀ m ∈ members, Adds step add m)
    {state final : σ} :
    closing endObject (foldMembers step state)
        (separated true (members.map Member.text) ++ (inner ++ 0x7D :: rest)) = .ok final left ↔
      foldTexts add members state = some final ∧ left = rest := by
  rw [closing_iff]
  constructor
  · rintro ⟨after, hfold, hend⟩
    obtain ⟨hfinal, rfl⟩ := (foldMembers_braced hinner hmembers hadds).mp hfold
    cases endObject_ok hend
    exact ⟨hfinal, rfl⟩
  · rintro ⟨hfinal, rfl⟩
    exact ⟨_, (foldMembers_braced hinner hmembers hadds).mpr ⟨hfinal, rfl⟩, endObject_cons⟩

end Objects

/-! ### Values of any form -/

theorem Trims.bind {r : Reader α} (h : Trims r) (f : α → Reader β) : Trims (r >>= f) := by
  intro text b left
  constructor
  · intro hok
    obtain ⟨a, left', ha, hb⟩ := exists_of_bind_ok hok
    rw [bind_of_ok ((h text a left').mp ha)]
    exact hb
  · intro hok
    obtain ⟨a, left', ha, hb⟩ := exists_of_bind_ok hok
    rw [bind_of_ok ((h text a left').mpr ha)]
    exact hb

/-- The value of a member is read behind the colon. -/
theorem colon_value {m : Member} (hm : m.IsMember) {r : Reader α} (htrims : Trims r)
    (hsettled : Settled r m.item.value) {rest left : List UInt8} (hrest : Behind rest)
    (f : α → β) {b : β} :
    (do colon; let a ← r; pure (f a) : Reader β)
        (m.middle ++ 0x3A :: (m.item.front ++ (m.item.value ++ rest))) = .ok b left ↔
      (readAll? r m.item.value).map f = some b ∧ left = rest := by
  rw [bind_of_ok (colon_spaces hm.middle _),
    (htrims.bind _).spaces hm.item.front hm.item.value.startsValue,
    (hsettled.bind fun a => still_pure (f a)) rest hrest, readAll?_bind_pure]

theorem trims_value : ∀ depth, Trims (value depth)
  | 0 => fun _ _ _ => ⟨fun h => (nomatch h), fun h => (nomatch h)⟩
  | _ + 1 => trims_of_peekToken _

/-- What a member does to those before it, when any value will do. -/
def addInto (depth : Nat) (name : String) (text : List UInt8) (members : List (String × Json)) :
    Option (List (String × Json)) :=
  (readAll? (value depth) text).map fun j => insertMember name j members

theorem adds_readInto {depth : Nat} {m : Member} (hm : m.IsMember)
    (hsettled : Settled (value depth) m.item.value) : Adds (readInto depth) (addInto depth) m := by
  intro name members rest hrest next left
  rw [readInto, colon_value hm (trims_value depth) hsettled hrest]
  simp only [addInto, Option.map_eq_some_iff, Except.ok.injEq]

section Tokens

variable {depth : Nat} {rest : List UInt8}

theorem value_minus : value (depth + 1) (0x2D :: rest) = Reader.number true rest := by
  rw [value, bind_of_ok (peekToken_cons rfl)]
  rfl

theorem value_digit {b : UInt8} (hb : isDigit b = true) :
    value (depth + 1) (b :: rest) = Reader.number false (b :: rest) := by
  have hne : ∀ c : UInt8, isDigit c = false → ¬ (b == c) = true := by
    intro c hc
    rw [beq_of_isDigit hb hc]
    exact Bool.false_ne_true
  rw [value, bind_of_ok (peekToken_cons (isSpace_of_isDigit hb))]
  simp only
  rw [if_neg (hne 0x6E rfl), if_neg (hne 0x74 rfl), if_neg (hne 0x66 rfl), if_neg (hne 0x2D rfl),
    if_pos hb]

theorem value_quote : value (depth + 1) (0x22 :: rest)
    = (string >>= fun s => pure (.str s) : Reader Json) rest := by
  rw [value, bind_of_ok (peekToken_cons rfl)]
  rfl

theorem value_bracket : value (depth + 1) (0x5B :: rest)
    = (do descend depth; skip; return .arr (← Reader.items fun _ => value depth) : Reader Json)
        (0x5B :: rest) := by
  rw [value, bind_of_ok (peekToken_cons rfl)]
  rfl

theorem value_brace : value (depth + 1) (0x7B :: rest)
    = (do
        descend depth
        skip
        return .obj (← closing endObject (foldMembers (readInto depth) [])) : Reader Json)
        (0x7B :: rest) := by
  rw [value, bind_of_ok (peekToken_cons rfl)]
  rfl

end Tokens

theorem bind_pure_iff {r : Reader α} {f : α → β} {text left : List UInt8} {b : β} :
    (r >>= fun a => pure (f a)) text = .ok b left ↔ ∃ a, r text = .ok a left ∧ f a = b := by
  constructor
  · intro h
    obtain ⟨a, left', ha, h⟩ := exists_of_bind_ok h
    cases h
    exact ⟨a, ha, rfl⟩
  · rintro ⟨a, ha, rfl⟩
    rw [bind_of_ok ha]
    rfl

/-- Behind an opening bracket, if another level is allowed. -/
theorem descend_skip_iff {depth : Nat} {r : Reader α} {b : UInt8} {text left : List UInt8} {a : α} :
    (do descend depth; skip; r : Reader α) (b :: text) = .ok a left ↔
      depth ≠ 0 ∧ r text = .ok a left := by
  have hskip : skip (b :: text) = .ok () text := rfl
  constructor
  · intro h
    obtain ⟨_, _, hdescend, h⟩ := exists_of_bind_ok h
    obtain ⟨hdepth, rfl⟩ := descend_ok hdescend
    rw [bind_of_ok hskip] at h
    exact ⟨hdepth, h⟩
  · rintro ⟨hdepth, h⟩
    have hdescend : descend depth (b :: text) = .ok () (b :: text) := by
      rw [descend, if_neg (by simpa using hdepth)]
      rfl
    rw [bind_of_ok hdescend, bind_of_ok hskip, h]

/-- **A value of any form is settled by its text.** -/
theorem settled_value : ∀ (depth : Nat) {text : List UInt8}, IsValue text →
    Settled (value depth) text := by
  intro depth
  induction depth with
  | zero => exact fun _ => settled_of_fails fun rest a left h => nomatch h
  | succ depth ih =>
      intro text htext
      cases htext with
      | null => exact settled_of_ok (a := .null) fun rest _ => rfl
      | true => exact settled_of_ok (a := .bool true) fun rest _ => rfl
      | false => exact settled_of_ok (a := .bool false) fun rest _ => rfl
      | negative h => exact settled_of_eq (fun rest _ => value_minus) (settled_number true h)
      | positive h =>
          obtain ⟨b, more, rfl, hb⟩ := h.starts
          exact settled_of_eq (fun rest _ => value_digit hb) (settled_number false h)
      | text h =>
          have hstring := (settled_string h).bind fun s => still_pure (Json.str s)
          exact settled_of_eq (fun rest _ => value_quote) hstring
      | @list inner items hinner hspaces hvalues =>
          refine settled_of_iff (P := fun j => depth ≠ 0 ∧ ∃ js,
            items.mapM (fun i => readAll? (value depth) i.value) = some js ∧ Json.arr js = j)
            fun rest _ j left => ?_
          have hread (js : List Json) :
              Reader.items (fun _ => value depth)
                  (separated true (items.map Item.text) ++ (inner ++ 0x5D :: rest))
                  = .ok js left ↔
                items.mapM (fun i => readAll? (value depth) i.value) = some js ∧ left = rest :=
            items_bracketed (r := value depth) hinner (isItem_of_list hspaces hvalues)
              (fun _ _ _ _ => Iff.rfl) fun i hi => ih (hvalues i hi)
          rw [bracketed_append, value_bracket, descend_skip_iff, bind_pure_iff]
          constructor
          · rintro ⟨hdepth, js, hjs, rfl⟩
            obtain ⟨hall, rfl⟩ := (hread js).mp hjs
            exact ⟨⟨hdepth, js, hall, rfl⟩, rfl⟩
          · rintro ⟨⟨hdepth, js, hall, rfl⟩, rfl⟩
            exact ⟨hdepth, js, (hread js).mpr ⟨hall, rfl⟩, rfl⟩
      | @object inner members hinner hspaces hlabels hvalues =>
          have hmembers := isMember_of_object hspaces hlabels hvalues
          have hadds : ∀ m ∈ members, Adds (readInto depth) (addInto depth) m :=
            fun m hm => adds_readInto (hmembers m hm) (ih (hvalues m hm))
          refine settled_of_iff (P := fun j => depth ≠ 0 ∧ ∃ final,
            foldTexts (addInto depth) members [] = some final ∧ Json.obj final = j)
            fun rest _ j left => ?_
          rw [braced_append, value_brace, descend_skip_iff, bind_pure_iff]
          constructor
          · rintro ⟨hdepth, final, hfinal, rfl⟩
            obtain ⟨hfold, rfl⟩ := (closing_braced hinner hmembers hadds).mp hfinal
            exact ⟨⟨hdepth, final, hfold, rfl⟩, rfl⟩
          · rintro ⟨⟨hdepth, final, hfold, rfl⟩, rfl⟩
            exact ⟨hdepth, final, (closing_braced hinner hmembers hadds).mpr ⟨hfold, rfl⟩, rfl⟩

end HealthBoard.Json
