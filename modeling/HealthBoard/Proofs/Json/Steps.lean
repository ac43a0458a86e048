/-
What a step of reading has found.

A reader that succeeds says what stands in the text: a word its bytes, a step to the next item or
member the end or a comma, a list its items.  Each step is taken apart once here, and where the
parts are to be put together again, that is said as well; so what follows is about what stands in a
text, and looks no further into the reader.
-/
import HealthBoard.Proofs.Json.ReadBack

namespace HealthBoard.Json.Reader

variable {left : List UInt8}

/-! ### Bytes and words -/

theorem word_ok {bs text : List UInt8} (h : word bs text = .ok () left) : text = bs ++ left := by
  induction bs generalizing text with
  | nil =>
      cases h
      rfl
  | cons b bs ih =>
      cases text with
      | nil => cases h
      | cons c text =>
          simp only [word, next, bind, EStateM.bind, List.head?_cons] at h
          split at h
          · rename_i hb
            rw [eq_of_beq hb]
            exact congrArg (b :: ·) (ih h)
          · cases h

theorem length_of_dropWhile {text more : List UInt8} {b : UInt8}
    (h : text.dropWhile isSpace = b :: more) : more.length < text.length := by
  have hlength := (List.dropWhile_suffix (l := text) isSpace).length_le
  rw [h, List.length_cons] at hlength
  omega

theorem within_ok {α : Type} {step : Step} {r : Reader α} {text : List UInt8} {a : α}
    (h : within step r text = .ok a left) : r text = .ok a left := by
  unfold within at h
  split at h
  · rename_i hr
    cases h
    exact hr
  · cases h

theorem within_iff {α : Type} {step : Step} {r : Reader α} {text : List UInt8} {a : α} :
    within step r text = .ok a left ↔ r text = .ok a left := by
  refine ⟨within_ok, fun h => ?_⟩
  rw [within, h]

/-! ### Values that were read -/

theorem peekToken_ok {text : List UInt8} {b : UInt8}
    (h : peekToken text = .ok (some b) left) :
    ∃ more, left = b :: more ∧ text.dropWhile isSpace = b :: more := by
  change EStateM.Result.ok (text.dropWhile isSpace).head? (text.dropWhile isSpace) = _ at h
  injection h with hhead hleft
  obtain ⟨more, hmore⟩ := List.head?_eq_some_iff.mp hhead
  exact ⟨more, by rw [← hleft, hmore], hmore⟩

theorem valueStart_ok {text : List UInt8} {b : UInt8} (h : valueStart text = .ok b left) :
    ∃ more, left = b :: more ∧ text.dropWhile isSpace = b :: more := by
  obtain ⟨head, start, hpeek, h⟩ := exists_of_bind_ok h
  cases head with
  | none => cases h
  | some b =>
      cases h
      exact peekToken_ok hpeek

/-- How a member of an object is put to those before it, its value read at the given depth. -/
def readInto (depth : Nat) (name : String) (members : List (String × Json)) :
    Reader (Except Mismatch (List (String × Json))) := do
  colon
  return .ok (insertMember name (← value depth) members)

/-- A value that was read, by the first byte of its text; `depth` more levels were allowed inside
it. -/
inductive IsRead (depth : Nat) (text : List UInt8) : Json → List UInt8 → Prop where
  | null {more left : List UInt8} (hstart : text.dropWhile isSpace = 0x6E :: more)
      (hword : word ull more = .ok () left) : IsRead depth text .null left
  | true {more left : List UInt8} (hstart : text.dropWhile isSpace = 0x74 :: more)
      (hword : word rue more = .ok () left) : IsRead depth text (.bool true) left
  | false {more left : List UInt8} (hstart : text.dropWhile isSpace = 0x66 :: more)
      (hword : word alse more = .ok () left) : IsRead depth text (.bool false) left
  | negative {more left : List UInt8} {j : Json} (hstart : text.dropWhile isSpace = 0x2D :: more)
      (hnumber : Reader.number true more = .ok j left) : IsRead depth text j left
  | positive {b : UInt8} {more left : List UInt8} {j : Json} (hdigit : isDigit b = true)
      (hstart : text.dropWhile isSpace = b :: more)
      (hnumber : Reader.number false (b :: more) = .ok j left) : IsRead depth text j left
  | text {more left : List UInt8} {s : String} (hstart : text.dropWhile isSpace = 0x22 :: more)
      (hstring : string more = .ok s left) : IsRead depth text (.str s) left
  | list {more left : List UInt8} {js : List Json} (hstart : text.dropWhile isSpace = 0x5B :: more)
      (hdepth : depth ≠ 0) (hitems : items (fun _ => value depth) more = .ok js left) :
      IsRead depth text (.arr js) left
  | object {more left : List UInt8} {members : List (String × Json)}
      (hstart : text.dropWhile isSpace = 0x7B :: more) (hdepth : depth ≠ 0)
      (hmembers : closing endObject (foldMembers (readInto depth) []) more = .ok members left) :
      IsRead depth text (.obj members) left

theorem descend_ok {depth : Nat} {text : List UInt8} (h : descend depth text = .ok () left) :
    depth ≠ 0 ∧ left = text := by
  unfold descend at h
  split at h
  · cases h
  · rename_i hdepth
    cases h
    exact ⟨by simpa using hdepth, rfl⟩

theorem isRead_of_value {depth : Nat} {text : List UInt8} {j : Json}
    (h : value (depth + 1) text = .ok j left) : IsRead depth text j left := by
  rw [value] at h
  obtain ⟨head, start, hpeek, h⟩ := exists_of_bind_ok h
  cases head with
  | none => cases h
  | some b =>
      obtain ⟨more, rfl, hstart⟩ := peekToken_ok hpeek
      simp only at h
      split at h
      · rename_i hb
        cases eq_of_beq hb
        obtain ⟨_, left', hword, h⟩ := exists_of_bind_ok (r := word ull) h
        cases h
        exact .null hstart hword
      split at h
      · rename_i hb
        cases eq_of_beq hb
        obtain ⟨_, left', hword, h⟩ := exists_of_bind_ok (r := word rue) h
        cases h
        exact .true hstart hword
      split at h
      · rename_i hb
        cases eq_of_beq hb
        obtain ⟨_, left', hword, h⟩ := exists_of_bind_ok (r := word alse) h
        cases h
        exact .false hstart hword
      split at h
      · rename_i hb
        cases eq_of_beq hb
        exact .negative hstart h
      split at h
      · rename_i hdigit
        exact .positive hdigit hstart h
      split at h
      · rename_i hb
        cases eq_of_beq hb
        obtain ⟨s, left', hstring, h⟩ := exists_of_bind_ok (r := string) h
        cases h
        exact .text hstart hstring
      split at h
      · rename_i hb
        cases eq_of_beq hb
        obtain ⟨_, left', hdescend, h⟩ := exists_of_bind_ok h
        obtain ⟨hdepth, rfl⟩ := descend_ok hdescend
        obtain ⟨js, left', hitems, h⟩ := exists_of_bind_ok (r := items fun _ => value depth) h
        cases h
        exact .list hstart hdepth hitems
      split at h
      · rename_i hb
        cases eq_of_beq hb
        obtain ⟨_, left', hdescend, h⟩ := exists_of_bind_ok h
        obtain ⟨hdepth, rfl⟩ := descend_ok hdescend
        obtain ⟨members, left', hmembers, h⟩ :=
          exists_of_bind_ok (r := closing endObject (foldMembers (readInto depth) [])) h
        cases h
        exact .object hstart hdepth hmembers
      · cases h

/-! ### Lists and objects that were read -/

theorem head_dropWhile {text more : List UInt8} {b : UInt8}
    (h : text.dropWhile isSpace = b :: more) : isSpace b = false := by
  have hhead := List.head_dropWhile_not isSpace (by simp [h] : text.dropWhile isSpace ≠ [])
  simpa [h] using hhead

theorem dropWhile_dropWhile (text : List UInt8) :
    (text.dropWhile isSpace).dropWhile isSpace = text.dropWhile isSpace := by
  cases h : text.dropWhile isSpace with
  | nil => rfl
  | cons b more => rw [List.dropWhile_cons_of_neg (by simp [head_dropWhile h])]

/-- A reader that looks for a token first does not see the space in front of it. -/
theorem peekToken_bind_dropWhile {α : Type} (f : Option UInt8 → Reader α) (text : List UInt8) :
    (peekToken >>= f) (text.dropWhile isSpace) = (peekToken >>= f) text := by
  have hpeek : peekToken (text.dropWhile isSpace) = peekToken text := by
    show EStateM.Result.ok ((text.dropWhile isSpace).dropWhile isSpace).head?
      ((text.dropWhile isSpace).dropWhile isSpace) = _
    rw [dropWhile_dropWhile]
    rfl
  simp only [bind, EStateM.bind, hpeek]

/-- What stands where another item was looked for: the end of the list, the first item, or a comma
and a further one. -/
theorem hasItem_ok {first found : Bool} {text : List UInt8}
    (h : hasItem first text = .ok found left) :
    (found = false ∧ ∃ more, text.dropWhile isSpace = 0x5D :: more ∧ left = 0x5D :: more) ∨
    (found = true ∧ first = true ∧ left = text.dropWhile isSpace ∧
      ∃ b more, left = b :: more ∧ b ≠ 0x5D) ∨
    (found = true ∧ first = false ∧
      ∃ more, text.dropWhile isSpace = 0x2C :: more ∧ left = more.dropWhile isSpace) := by
  obtain ⟨head, start, hpeek, h⟩ := exists_of_bind_ok h
  cases head with
  | none => cases h
  | some b =>
      obtain ⟨more, rfl, hstart⟩ := peekToken_ok hpeek
      simp only at h
      split at h
      · rename_i hb
        cases eq_of_beq hb
        cases h
        exact .inl ⟨rfl, more, hstart, rfl⟩
      rename_i hclose
      split at h
      · rename_i hfirst
        cases h
        exact .inr (.inl ⟨rfl, hfirst, hstart.symm, b, more, rfl, by simpa using hclose⟩)
      rename_i hfirst
      split at h
      · rename_i hb
        cases eq_of_beq hb
        obtain ⟨_, _, hskip, h⟩ := exists_of_bind_ok h
        cases hskip
        obtain ⟨head, start, hpeek, h⟩ := exists_of_bind_ok h
        cases head with
        | none => cases h
        | some b =>
            obtain ⟨later, rfl, hlater⟩ := peekToken_ok hpeek
            by_cases hb : b = 0x5D
            · subst hb
              cases h
            · simp [pure, EStateM.pure] at h
              obtain ⟨rfl, rfl⟩ := h
              exact .inr (.inr ⟨rfl, by simpa using hfirst, more, hstart, hlater.symm⟩)
      · cases h

/-- What stands where another member was looked for: the end of the object, or the quote of a name,
perhaps after a comma. -/
theorem hasMember_ok {first found : Bool} {text : List UInt8}
    (h : hasMember first text = .ok found left) :
    (found = false ∧ ∃ more, text.dropWhile isSpace = 0x7D :: more ∧ left = 0x7D :: more) ∨
    (found = true ∧ first = true ∧
      ∃ more, text.dropWhile isSpace = 0x22 :: more ∧ left = 0x22 :: more) ∨
    (found = true ∧ first = false ∧ ∃ later more, text.dropWhile isSpace = 0x2C :: later ∧
      later.dropWhile isSpace = 0x22 :: more ∧ left = 0x22 :: more) := by
  obtain ⟨head, start, hpeek, h⟩ := exists_of_bind_ok h
  cases head with
  | none => cases h
  | some b =>
      obtain ⟨more, rfl, hstart⟩ := peekToken_ok hpeek
      simp only at h
      split at h
      · rename_i hb
        cases eq_of_beq hb
        cases h
        exact .inl ⟨rfl, more, hstart, rfl⟩
      split at h
      · rename_i hfirst
        split at h
        · rename_i hb
          cases eq_of_beq hb
          cases h
          exact .inr (.inl ⟨rfl, hfirst, more, hstart, rfl⟩)
        · cases h
      rename_i hfirst
      split at h
      · rename_i hb
        cases eq_of_beq hb
        obtain ⟨_, _, hskip, h⟩ := exists_of_bind_ok h
        cases hskip
        obtain ⟨head, start, hpeek, h⟩ := exists_of_bind_ok h
        cases head with
        | none => cases h
        | some b =>
            obtain ⟨later, rfl, hlater⟩ := peekToken_ok hpeek
            by_cases hquote : b = 0x22
            · subst hquote
              cases h
              exact .inr (.inr ⟨rfl, by simpa using hfirst, more, later, hstart, hlater, rfl⟩)
            by_cases hclose : b = 0x7D
            · subst hclose
              cases h
            · simp [failNext] at h
      · cases h

theorem quote_of_hasMember {first : Bool} {text : List UInt8}
    (h : hasMember first text = .ok true left) : ∃ more, left = 0x22 :: more := by
  rcases hasMember_ok h with ⟨h, -⟩ | ⟨-, -, more, -, h⟩ | ⟨-, -, -, more, -, -, h⟩
  · cases h
  · exact ⟨more, h⟩
  · exact ⟨more, h⟩

theorem colon_ok {text : List UInt8} (h : colon text = .ok () left) :
    text.dropWhile isSpace = 0x3A :: left := by
  obtain ⟨head, start, hpeek, h⟩ := exists_of_bind_ok h
  cases head with
  | none => cases h
  | some b =>
      obtain ⟨more, rfl, hstart⟩ := peekToken_ok hpeek
      by_cases hb : b = 0x3A
      · subst hb
        cases h
        exact hstart
      · simp [failNext] at h

theorem endList_ok {text : List UInt8} (h : endList text = .ok () left) :
    text.dropWhile isSpace = 0x5D :: left := by
  obtain ⟨head, start, hpeek, h⟩ := exists_of_bind_ok h
  cases head with
  | none => cases h
  | some b =>
      obtain ⟨more, rfl, hstart⟩ := peekToken_ok hpeek
      by_cases hb : b = 0x5D
      · subst hb
        cases h
        exact hstart
      by_cases hcomma : b = 0x2C
      · subst hcomma
        obtain ⟨_, _, hskip, h⟩ := exists_of_bind_ok (r := skip) h
        cases hskip
        obtain ⟨head, start, -, h⟩ := exists_of_bind_ok h
        split at h <;> cases h
      · simp [failNext] at h

theorem endObject_ok {text : List UInt8} (h : endObject text = .ok () left) :
    text.dropWhile isSpace = 0x7D :: left := by
  obtain ⟨head, start, hpeek, h⟩ := exists_of_bind_ok h
  cases head with
  | none => cases h
  | some b =>
      obtain ⟨more, rfl, hstart⟩ := peekToken_ok hpeek
      by_cases hb : b = 0x7D
      · subst hb
        cases h
        exact hstart
      by_cases hcomma : b = 0x2C
      · subst hcomma
        cases h
      · simp [failNext] at h

theorem closing_ok {α : Type} {close : Reader Unit} {body : Reader (Except Mismatch α)}
    {text : List UInt8} {a : α} (h : closing close body text = .ok a left) :
    ∃ rest, body text = .ok (.ok a) rest ∧ close rest = .ok () left := by
  unfold closing at h
  cases hbody : body text with
  | error c rest =>
      rw [hbody] at h
      cases h
  | ok result rest =>
      rw [hbody] at h
      cases result with
      | error m => cases h
      | ok b =>
          obtain ⟨_, rest', hclose, h⟩ := exists_of_bind_ok (r := close) h
          cases h
          exact ⟨rest, rfl, hclose⟩

/-- What was folded over: nothing more, or a member and those after it. -/
theorem foldMembersFrom_ok {ε σ : Type} {step : String → σ → Reader (Except ε σ)} {fuel : Nat}
    {first : Bool} {state final : σ} {text : List UInt8}
    (h : foldMembersFrom step (fuel + 1) first state text = .ok (.ok final) left) :
    (hasMember first text = .ok false left ∧ final = state) ∨
    ∃ more name named next after, hasMember first text = .ok true (0x22 :: more) ∧
      string more = .ok name named ∧ step name state named = .ok (.ok next) after ∧
      foldMembersFrom step fuel false next after = .ok (.ok final) left := by
  obtain ⟨found, start, hmember, h⟩ := exists_of_bind_ok h
  cases found with
  | false =>
      cases h
      exact .inl ⟨hmember, rfl⟩
  | true =>
      obtain ⟨more, rfl⟩ := quote_of_hasMember hmember
      obtain ⟨_, _, hskip, h⟩ := exists_of_bind_ok (r := skip) h
      cases hskip
      obtain ⟨name, named, hname, h⟩ := exists_of_bind_ok h
      obtain ⟨result, after, hstep, h⟩ := exists_of_bind_ok h
      cases result with
      | error e => cases h
      | ok next => exact .inr ⟨more, name, named, next, after, hmember, hname, hstep, h⟩

theorem itemsFrom_ok {α : Type} {item : Nat → Reader α} {fuel index : Nat} {all : List α}
    {text : List UInt8} (h : itemsFrom item (fuel + 1) index text = .ok all left) :
    (hasItem (index == 0) text = .ok false left ∧ all = []) ∨
    ∃ start a after more, hasItem (index == 0) text = .ok true start ∧
      item index start = .ok a after ∧
      itemsFrom item fuel (index + 1) after = .ok more left ∧ all = a :: more := by
  obtain ⟨found, start, hitem, h⟩ := exists_of_bind_ok h
  cases found with
  | false =>
      cases h
      exact .inl ⟨hitem, rfl⟩
  | true =>
      obtain ⟨a, after, ha, h⟩ := exists_of_bind_ok (r := item index) h
      obtain ⟨more, left', hmore, h⟩ := exists_of_bind_ok h
      cases h
      exact .inr ⟨start, a, after, more, hitem, ha, hmore, rfl⟩

theorem items_ok {α : Type} {item : Nat → Reader α} {all : List α} {text : List UInt8}
    (h : items item text = .ok all left) :
    ∃ rest, itemsFrom item (text.length + 1) 0 text = .ok all rest ∧
      endList rest = .ok () left := by
  obtain ⟨all', rest, hitems, h⟩ := exists_of_bind_ok h
  obtain ⟨_, rest', hclose, h⟩ := exists_of_bind_ok h
  cases h
  exact ⟨rest, hitems, hclose⟩

/-! ### Lists and objects put together -/

section Items

variable {α : Type} {item : Nat → Reader α} {fuel index : Nat} {text : List UInt8}

theorem itemsFrom_nil (h : hasItem (index == 0) text = .ok false left) :
    itemsFrom item (fuel + 1) index text = .ok [] left := by
  rw [itemsFrom, bind_of_ok h, if_neg (by simp)]
  rfl

theorem itemsFrom_cons {start after : List UInt8} {a : α} {more : List α}
    (h : hasItem (index == 0) text = .ok true start) (ha : item index start = .ok a after)
    (hmore : itemsFrom item fuel (index + 1) after = .ok more left) :
    itemsFrom item (fuel + 1) index text = .ok (a :: more) left := by
  rw [itemsFrom, bind_of_ok h, if_pos rfl, bind_of_ok ha, bind_of_ok hmore]
  rfl

theorem items_of_itemsFrom {rest : List UInt8} {all : List α}
    (hitems : itemsFrom item (text.length + 1) 0 text = .ok all rest)
    (hend : endList rest = .ok () left) : items item text = .ok all left := by
  rw [items, bind_of_ok hitems, bind_of_ok hend]
  rfl

end Items

theorem endList_of_dropWhile {text : List UInt8} (h : text.dropWhile isSpace = 0x5D :: left) :
    endList text = .ok () left := by
  rw [endList, bind_of_ok (peekToken_of_dropWhile h)]
  rfl

theorem colon_of_dropWhile {text : List UInt8} (h : text.dropWhile isSpace = 0x3A :: left) :
    colon text = .ok () left := by
  rw [colon, bind_of_ok (peekToken_of_dropWhile h)]
  rfl

/-- The end of a list, looked for without taking the closing bracket. -/
theorem hasItem_of_endList {text : List UInt8} (h : endList text = .ok () left) :
    hasItem false text = .ok false (0x5D :: left) := by
  rw [hasItem, bind_of_ok (peekToken_of_dropWhile (endList_ok h))]
  rfl

section Folds

variable {ε σ : Type} {step : String → σ → Reader (Except ε σ)} {fuel : Nat} {first : Bool}
  {state final : σ} {text : List UInt8}

theorem foldMembersFrom_nil (hmember : hasMember first text = .ok false left) :
    foldMembersFrom step (fuel + 1) first state text = .ok (.ok state) left := by
  rw [foldMembersFrom, bind_of_ok hmember, if_neg (by simp)]
  rfl

theorem foldMembersFrom_cons {more named after : List UInt8} {name : String} {next : σ}
    (hmember : hasMember first text = .ok true (0x22 :: more))
    (hname : string more = .ok name named)
    (hstep : step name state named = .ok (.ok next) after)
    (hlater : foldMembersFrom step fuel false next after = .ok (.ok final) left) :
    foldMembersFrom step (fuel + 1) first state text = .ok (.ok final) left := by
  have hquote : skip (0x22 :: more) = .ok () more := rfl
  rw [foldMembersFrom, bind_of_ok hmember, if_pos rfl, bind_of_ok hquote, bind_of_ok hname,
    bind_of_ok hstep]
  exact hlater

end Folds

end HealthBoard.Json.Reader
