/-
What is a JSON text.

The readers say which texts they take by taking them.  Here the texts are described without any
reader, by what they are put together from (RFC 8259): a number from its digits, a string from its
characters and escapes, a list from items with commas between them, an object from members.  The
parts are kept, the space around them included, so that an object can be spoken of as its members
and put together again from the same members in another order.

The grammar asks less than the readers do.  It sets no bound on numbers or on nesting, it does not
ask whether escapes make characters, and two members may have one name.  What a member is called is
a matter of what its escapes stand for, and so it is the reader of strings that names it
(`Member.name?`).
-/
import HealthBoard.Json.Reader

namespace HealthBoard.Json

open Reader

/-! ### Parts -/

/-- Nothing but space. -/
def IsSpaces (text : List UInt8) : Prop := ∀ b ∈ text, isSpace b = true

theorem isSpaces_nil : IsSpaces [] := fun _ hb => nomatch hb

/-- Nothing but digits. -/
def AreDigits (text : List UInt8) : Prop := ∀ b ∈ text, isDigit b = true

/-- The digits before the point: a zero, or digits of which the first is none. -/
inductive IsWhole : List UInt8 → Prop where
  | zero : IsWhole [0x30]
  | digits {b : UInt8} {ds : List UInt8} (hb : isDigit b = true) (hzero : b ≠ 0x30)
      (hds : AreDigits ds) : IsWhole (b :: ds)

/-- Nothing, or an `e`, perhaps a sign, and digits. -/
inductive IsExponent : List UInt8 → Prop where
  | none : IsExponent []
  | plain {e d : UInt8} {ds : List UInt8} (he : e = 0x65 ∨ e = 0x45) (hd : isDigit d = true)
      (hds : AreDigits ds) : IsExponent (e :: d :: ds)
  | signed {e sign d : UInt8} {ds : List UInt8} (he : e = 0x65 ∨ e = 0x45)
      (hsign : sign = 0x2D ∨ sign = 0x2B) (hd : isDigit d = true) (hds : AreDigits ds) :
      IsExponent (e :: sign :: d :: ds)

/-- What stands behind the whole digits: perhaps a point and digits, and perhaps an exponent. -/
inductive IsNumberTail : List UInt8 → Prop where
  | whole {exponent : List UInt8} (he : IsExponent exponent) : IsNumberTail exponent
  | point {d : UInt8} {ds exponent : List UInt8} (hd : isDigit d = true) (hds : AreDigits ds)
      (he : IsExponent exponent) : IsNumberTail (0x2E :: d :: (ds ++ exponent))

/-- A number without its sign. -/
inductive IsNumeral : List UInt8 → Prop where
  | mk {whole tail : List UInt8} (hwhole : IsWhole whole) (htail : IsNumberTail tail) :
      IsNumeral (whole ++ tail)

/-- What stands between the quotes of a string. -/
inductive IsQuoted : List UInt8 → Prop where
  | nil : IsQuoted []
  | plain {b : UInt8} {more : List UInt8} (hquote : b ≠ 0x22) (hslash : b ≠ 0x5C)
      (hcontrol : ¬ b < 0x20) (h : IsQuoted more) : IsQuoted (b :: more)
  | escape {e : UInt8} {more : List UInt8} (he : (simpleEscape? e).isSome) (h : IsQuoted more) :
      IsQuoted (0x5C :: e :: more)
  | hex {a b c d : UInt8} {more : List UInt8} (hhex : (hexNumber? [a, b, c, d]).isSome)
      (h : IsQuoted more) : IsQuoted (0x5C :: 0x75 :: a :: b :: c :: d :: more)

/-! ### Lists and objects -/

/-- A value with the space around it. -/
structure Item where
  front : List UInt8
  value : List UInt8
  back : List UInt8

def Item.text (i : Item) : List UInt8 := i.front ++ (i.value ++ i.back)

/-- A member of an object: space, a label in quotes, space and a colon, and a value. -/
structure Member where
  front : List UInt8
  label : List UInt8
  middle : List UInt8
  item : Item

def Member.text (m : Member) : List UInt8 :=
  m.front ++ 0x22 :: (m.label ++ 0x22 :: (m.middle ++ 0x3A :: m.item.text))

/-- Texts with commas between them, and one in front unless the first of them comes first. -/
def separated : (first : Bool) → List (List UInt8) → List UInt8
  | _, [] => []
  | true, text :: more => text ++ separated false more
  | false, text :: more => 0x2C :: (text ++ separated false more)

/-- A list; `inner` is the space before its bracket, of use where there are no items. -/
def bracketed (inner : List UInt8) (items : List Item) : List UInt8 :=
  0x5B :: (separated true (items.map Item.text) ++ (inner ++ [0x5D]))

def braced (inner : List UInt8) (members : List Member) : List UInt8 :=
  0x7B :: (separated true (members.map Member.text) ++ (inner ++ [0x7D]))

theorem separated_nil (first : Bool) : separated first [] = [] := by
  cases first <;> rfl

theorem separated_first (text : List UInt8) (more : List (List UInt8)) (rest : List UInt8) :
    separated true (text :: more) ++ rest = text ++ (separated false more ++ rest) := by
  simp only [separated, List.append_assoc]

theorem separated_next (text : List UInt8) (more : List (List UInt8)) (rest : List UInt8) :
    separated false (text :: more) ++ rest = 0x2C :: (text ++ (separated false more ++ rest)) := by
  simp only [separated, List.append_assoc, List.cons_append]

theorem bracketed_append (inner : List UInt8) (items : List Item) (rest : List UInt8) :
    bracketed inner items ++ rest
      = 0x5B :: (separated true (items.map Item.text) ++ (inner ++ 0x5D :: rest)) := by
  simp only [bracketed, List.cons_append, List.append_assoc, List.nil_append]

theorem braced_append (inner : List UInt8) (members : List Member) (rest : List UInt8) :
    braced inner members ++ rest
      = 0x7B :: (separated true (members.map Member.text) ++ (inner ++ 0x7D :: rest)) := by
  simp only [braced, List.cons_append, List.append_assoc, List.nil_append]

theorem Item.text_append (i : Item) (rest : List UInt8) :
    i.text ++ rest = i.front ++ (i.value ++ (i.back ++ rest)) := by
  simp only [text, List.append_assoc]

theorem Member.text_append (m : Member) (rest : List UInt8) :
    m.text ++ rest = m.front ++ 0x22 :: (m.label ++ 0x22 :: (m.middle ++ 0x3A ::
      (m.item.front ++ (m.item.value ++ (m.item.back ++ rest))))) := by
  simp only [text, Item.text, List.append_assoc, List.cons_append]

/-- A value, without space around it. -/
inductive IsValue : List UInt8 → Prop where
  | null : IsValue (0x6E :: ull)
  | true : IsValue (0x74 :: rue)
  | false : IsValue (0x66 :: alse)
  | negative {text : List UInt8} (h : IsNumeral text) : IsValue (0x2D :: text)
  | positive {text : List UInt8} (h : IsNumeral text) : IsValue text
  | text {text : List UInt8} (h : IsQuoted text) : IsValue (0x22 :: (text ++ [0x22]))
  | list {inner : List UInt8} {items : List Item} (hinner : IsSpaces inner)
      (hspaces : ∀ i ∈ items, IsSpaces i.front ∧ IsSpaces i.back)
      (hvalues : ∀ i ∈ items, IsValue i.value) : IsValue (bracketed inner items)
  | object {inner : List UInt8} {members : List Member} (hinner : IsSpaces inner)
      (hspaces : ∀ m ∈ members, IsSpaces m.front ∧ IsSpaces m.middle ∧
        IsSpaces m.item.front ∧ IsSpaces m.item.back)
      (hlabels : ∀ m ∈ members, IsQuoted m.label)
      (hvalues : ∀ m ∈ members, IsValue m.item.value) : IsValue (braced inner members)

/-- The item is one of a JSON text. -/
structure Item.IsItem (i : Item) : Prop where
  front : IsSpaces i.front
  value : IsValue i.value
  back : IsSpaces i.back

/-- The member is one of a JSON text. -/
structure Member.IsMember (m : Member) : Prop where
  front : IsSpaces m.front
  label : IsQuoted m.label
  middle : IsSpaces m.middle
  item : m.item.IsItem

theorem isItem_of_list {items : List Item}
    (hspaces : ∀ i ∈ items, IsSpaces i.front ∧ IsSpaces i.back)
    (hvalues : ∀ i ∈ items, IsValue i.value) : ∀ i ∈ items, i.IsItem :=
  fun i hi => ⟨(hspaces i hi).1, hvalues i hi, (hspaces i hi).2⟩

theorem isMember_of_object {members : List Member}
    (hspaces : ∀ m ∈ members, IsSpaces m.front ∧ IsSpaces m.middle ∧
      IsSpaces m.item.front ∧ IsSpaces m.item.back)
    (hlabels : ∀ m ∈ members, IsQuoted m.label) (hvalues : ∀ m ∈ members, IsValue m.item.value) :
    ∀ m ∈ members, m.IsMember := by
  intro m hm
  obtain ⟨hfront, hmiddle, hitem, hback⟩ := hspaces m hm
  exact ⟨hfront, hlabels m hm, hmiddle, hitem, hvalues m hm, hback⟩

theorem isValue_bracketed {inner : List UInt8} {items : List Item} (hinner : IsSpaces inner)
    (hitems : ∀ i ∈ items, i.IsItem) : IsValue (bracketed inner items) :=
  .list hinner (fun i hi => ⟨(hitems i hi).front, (hitems i hi).back⟩)
    fun i hi => (hitems i hi).value

theorem isValue_braced {inner : List UInt8} {members : List Member} (hinner : IsSpaces inner)
    (hmembers : ∀ m ∈ members, m.IsMember) : IsValue (braced inner members) := by
  refine .object hinner (fun m hm => ?_) (fun m hm => (hmembers m hm).label) fun m hm => ?_
  · have hmember := hmembers m hm
    exact ⟨hmember.front, hmember.middle, hmember.item.front, hmember.item.back⟩
  · exact (hmembers m hm).item.value

/-! ### Names and values -/

namespace Reader

variable {α : Type} {r : Reader α} {text : List UInt8} {a : α}

/-- What is read from a text, if nothing of it is left. -/
def readAll? (r : Reader α) (text : List UInt8) : Option α :=
  match r text with
  | .ok a [] => some a
  | _ => none

theorem readAll?_eq_some : readAll? r text = some a ↔ r text = .ok a [] := by
  unfold readAll?
  constructor
  · intro h
    split at h
    · rename_i hread
      cases h
      exact hread
    · cases h
  · intro h
    rw [h]

end Reader

/-- What the label of a member is read as; a label need not be a text. -/
def Member.name? (m : Member) : Option String := readAll? string (m.label ++ [0x22])

/-! ### Where values begin and end -/

/-- What can stand behind a value: nothing, space, a comma or a closing bracket. -/
def Behind (rest : List UInt8) : Prop :=
  ∀ b ∈ rest.head?, isSpace b = true ∨ b = 0x2C ∨ b = 0x5D ∨ b = 0x7D

theorem behind_nil : Behind [] := fun _ hb => nomatch hb

theorem behind_of_spaces {spaces rest : List UInt8} (h : IsSpaces spaces) (hrest : Behind rest) :
    Behind (spaces ++ rest) := by
  cases spaces with
  | nil => exact hrest
  | cons b more =>
      rintro c hc
      cases Option.some.inj hc
      exact .inl (h b List.mem_cons_self)

/-- Behind an item or a member comes another, or the end of what it is in. -/
theorem behind_separated {texts : List (List UInt8)} {inner rest : List UInt8} {closer : UInt8}
    (hinner : IsSpaces inner) (hcloser : closer = 0x5D ∨ closer = 0x7D) :
    Behind (separated false texts ++ (inner ++ closer :: rest)) := by
  cases texts with
  | nil =>
      have hend : Behind (closer :: rest) := by
        rintro c hc
        cases Option.some.inj hc
        exact .inr (.inr hcloser)
      show Behind (inner ++ closer :: rest)
      exact behind_of_spaces hinner hend
  | cons text more =>
      rintro c hc
      cases Option.some.inj hc
      exact .inr (.inl rfl)

theorem Item.IsItem.behind {i : Item} (hi : i.IsItem) {inner : List UInt8} (hinner : IsSpaces inner)
    (more : List Item) (rest : List UInt8) :
    Behind (i.back ++ (separated false (more.map Item.text) ++ (inner ++ 0x5D :: rest))) :=
  behind_of_spaces hi.back (behind_separated hinner (.inl rfl))

theorem Member.IsMember.behind {m : Member} (hm : m.IsMember) {inner : List UInt8}
    (hinner : IsSpaces inner) (more : List Member) (rest : List UInt8) :
    Behind (m.item.back ++ (separated false (more.map Member.text) ++ (inner ++ 0x7D :: rest))) :=
  behind_of_spaces hm.item.back (behind_separated hinner (.inr rfl))

/-- No number goes on here. -/
theorem Behind.number_ends {rest : List UInt8} (h : Behind rest) :
    ∀ b ∈ rest.head?, isDigit b = false ∧ b ≠ 0x2E ∧ b ≠ 0x65 ∧ b ≠ 0x45 := by
  intro b hb
  have hone := h b hb
  simp only [isSpace, Bool.or_eq_true, beq_iff_eq] at hone
  rcases hone with (((rfl | rfl) | rfl) | rfl) | rfl | rfl | rfl <;> decide

theorem dropWhile_spaces {spaces rest : List UInt8} (h : IsSpaces spaces) :
    (spaces ++ rest).dropWhile isSpace = rest.dropWhile isSpace :=
  List.dropWhile_append_of_pos h

theorem dropWhile_token {spaces rest : List UInt8} {b : UInt8} (h : IsSpaces spaces)
    (hb : isSpace b = false) : (spaces ++ b :: rest).dropWhile isSpace = b :: rest := by
  rw [dropWhile_spaces h, List.dropWhile_cons_of_neg (by simp [hb])]

theorem IsNumeral.starts {text : List UInt8} (h : IsNumeral text) :
    ∃ b more, text = b :: more ∧ isDigit b = true := by
  obtain ⟨hwhole, htail⟩ := h
  cases hwhole with
  | zero => exact ⟨0x30, _, rfl, rfl⟩
  | digits hb hzero hds => exact ⟨_, _, rfl, hb⟩

end HealthBoard.Json
