/-
Every JSON value can be passed over.

The machine that passes over a value keeps the brackets that are open in a list, and knows no bound
on nesting and none on numbers; so it takes all that the grammar calls a value, and stops right
behind it (`passes_of_isValue`).  That is the converse of what is known of values that were read.

The proof is by induction on how the value is put together.  A list or an object is closed by the
items or members behind the first, one after the other, and each of them is passed over by
induction.
-/
import HealthBoard.Proofs.Json.Grammar
import HealthBoard.Proofs.Json.RoundTrip
import HealthBoard.Proofs.Json.Skipped

namespace HealthBoard.Json

open Reader

variable {text rest : List UInt8}

theorem IsValue.startsValue (h : IsValue text) : StartsValue text := by
  cases h with
  | positive h =>
      obtain ⟨b, more, rfl, hb⟩ := h.starts
      exact startsValue_of_isDigit hb
  | _ => exact ⟨_, _, rfl, rfl, by decide⟩

/-! ### Numbers -/

theorem IsExponent.skipTail (h : IsExponent text) (hrest : Behind rest) :
    skipExponentTail (text ++ rest) = .ok () rest := by
  have hends : ∀ b ∈ rest.head?, isDigit b = false := fun b hb => (hrest.number_ends b hb).1
  cases h with
  | none => exact skipExponentTail_of_head? fun b hb => (hrest.number_ends b hb).2.2
  | @plain e d ds he hd hds =>
      have hskip : skipExponentTail (e :: d :: (ds ++ rest))
          = skipExponent (d :: (ds ++ rest)) := by
        rcases he with rfl | rfl <;> rfl
      show skipExponentTail (e :: d :: (ds ++ rest)) = _
      rw [hskip, skipExponent_digit hd, (takeWhile_isDigit_digits hds hends).2]
  | @signed e sign d ds he hsign hd hds =>
      have hskip : skipExponentTail (e :: sign :: d :: (ds ++ rest))
          = skipExponent (sign :: d :: (ds ++ rest)) := by
        rcases he with rfl | rfl <;> rfl
      show skipExponentTail (e :: sign :: d :: (ds ++ rest)) = _
      rw [hskip, skipExponent_sign hsign hd, (takeWhile_isDigit_digits hds hends).2]

theorem IsExponent.head (h : IsExponent text) (hrest : Behind rest) :
    ∀ b ∈ (text ++ rest).head?, isDigit b = false ∧ b ≠ 0x2E := by
  intro b hb
  cases h with
  | none =>
      obtain ⟨hdigit, hpoint, -⟩ := hrest.number_ends b hb
      exact ⟨hdigit, hpoint⟩
  | plain he =>
      cases Option.some.inj hb
      rcases he with rfl | rfl <;> decide
  | signed he =>
      cases Option.some.inj hb
      rcases he with rfl | rfl <;> decide

/-- Behind whole digits comes no digit. -/
theorem IsNumberTail.head (h : IsNumberTail text) (hrest : Behind rest) :
    ∀ b ∈ (text ++ rest).head?, isDigit b = false := by
  cases h with
  | whole he => exact fun b hb => (he.head hrest b hb).1
  | point =>
      intro b hb
      cases Option.some.inj hb
      rfl

theorem IsNumberTail.skipTail (h : IsNumberTail text) (hrest : Behind rest) :
    skipNumberTail (text ++ rest) = .ok () rest := by
  cases h with
  | whole he =>
      rw [skipNumberTail_of_head? fun hb => (he.head hrest _ hb).2 rfl]
      exact he.skipTail hrest
  | @point d ds exponent hd hds he =>
      have hskip : skipNumberTail (0x2E :: d :: (ds ++ (exponent ++ rest)))
          = skipFraction (d :: (ds ++ (exponent ++ rest))) := rfl
      have hall : AreDigits (d :: ds) := List.forall_mem_cons.mpr ⟨hd, hds⟩
      obtain ⟨htake, hdrop⟩ := takeWhile_isDigit_digits hall fun b hb => (he.head hrest b hb).1
      rw [List.cons_append] at htake hdrop
      rw [List.cons_append, List.cons_append, List.append_assoc, hskip,
        skipFraction_eq (by rw [htake]; exact List.cons_ne_nil _ _), hdrop]
      exact he.skipTail hrest

theorem IsNumeral.skipNumber (h : IsNumeral text) (hrest : Behind rest) :
    Reader.skipNumber (text ++ rest) = .ok () rest := by
  obtain ⟨hwhole, htail⟩ := h
  have hends := htail.head hrest
  cases hwhole with
  | zero =>
      rw [List.append_assoc, List.singleton_append, skipNumber_zero hends]
      exact htail.skipTail hrest
  | digits hb hzero hds =>
      rw [List.append_assoc, List.cons_append, skipNumber_digits hb hzero,
        (takeWhile_isDigit_digits hds hends).2]
      exact htail.skipTail hrest

/-! ### Strings -/

theorem IsQuoted.skipString (h : IsQuoted text) :
    Reader.skipString (text ++ 0x22 :: rest) = .ok () rest := by
  induction h with
  | nil => exact skipString_quote
  | plain hquote hslash hcontrol _ ih =>
      rw [List.cons_append, skipString_plain hquote hslash hcontrol, ih]
  | @escape e more he _ ih =>
      have hu : e ≠ 0x75 := by
        rintro rfl
        cases he
      rw [List.cons_append, List.cons_append, skipString_escape hu he, ih]
  | hex hhex _ ih =>
      simp only [List.cons_append]
      rw [skipString_hex hhex, ih]

/-! ### Lists and objects -/

theorem passes_dropWhile {left : List UInt8} (h : Passes (text.dropWhile isSpace) left) :
    Passes text left := by
  obtain ⟨steps, hsteps, hpass⟩ := h
  have hlength := (List.dropWhile_suffix (l := text) isSpace).length_le
  refine ⟨steps, by omega, fun fuel opened => ?_⟩
  rw [← skipFrom_dropWhile, hpass]

/-- Space, and a value behind it. -/
theorem passes_spaces {front left : List UInt8} (hfront : IsSpaces front)
    (h : Passes (text ++ rest) left) (hstart : StartsValue text) :
    Passes (front ++ (text ++ rest)) left := by
  refine passes_dropWhile ?_
  rw [dropWhile_spaces hfront, hstart.dropWhile]
  exact h

/-- What can be passed over wherever a value can stand. -/
def PassedOver (text : List UInt8) : Prop := ∀ rest, Behind rest → Passes (text ++ rest) rest

section Brackets

variable {inner : List UInt8}

/-- The items behind one, and the closing bracket. -/
theorem closes_separated_items {items : List Item} (hinner : IsSpaces inner)
    (hitems : ∀ i ∈ items, i.IsItem) (hpass : ∀ i ∈ items, PassedOver i.value) :
    ∀ {back : List UInt8}, IsSpaces back →
      Closes .list (back ++ (separated false (items.map Item.text) ++ (inner ++ 0x5D :: rest)))
        rest := by
  induction items with
  | nil =>
      intro back hback
      refine closes_of_endList ?_
      rw [dropWhile_spaces hback]
      exact dropWhile_token hinner rfl
  | cons i more ih =>
      intro back hback
      obtain ⟨hi, hmore⟩ := List.forall_mem_cons.mp hitems
      obtain ⟨hvalue, hpass⟩ := List.forall_mem_cons.mp hpass
      have hbehind := hi.behind hinner more rest
      rw [List.map_cons, separated_next, Item.text_append]
      refine closes_of_item (dropWhile_token hback rfl) ?_ (ih hmore hpass hi.back)
      rw [dropWhile_spaces hi.front, hi.value.startsValue.dropWhile]
      exact hvalue _ hbehind

theorem passedOver_bracketed {items : List Item} (hinner : IsSpaces inner)
    (hitems : ∀ i ∈ items, i.IsItem) (hpass : ∀ i ∈ items, PassedOver i.value) :
    PassedOver (bracketed inner items) := by
  intro rest hrest
  rw [bracketed_append]
  cases items with
  | nil =>
      have hend : (inner ++ 0x5D :: rest).dropWhile isSpace = 0x5D :: rest :=
        dropWhile_token hinner rfl
      refine passes_of_valueToken ?_ fun opened => valueToken_list_end rfl hend
      exact Nat.lt_succ_of_lt (length_of_dropWhile hend)
  | cons i more =>
      obtain ⟨hi, hmore⟩ := List.forall_mem_cons.mp hitems
      obtain ⟨hvalue, hpass⟩ := List.forall_mem_cons.mp hpass
      have hbehind := hi.behind hinner more rest
      have hfirst := hvalue _ hbehind
      obtain ⟨b, v, hv, hspace, hb⟩ := hi.value.startsValue
      rw [List.map_cons, separated_first, Item.text_append]
      rw [hv] at hfirst ⊢
      refine passes_of_closes ?_
        (fun opened => valueToken_list_open rfl (dropWhile_token hi.front hspace) hb) hfirst
        (closes_separated_items hinner hmore hpass hi.back)
      simp only [List.append_eq, List.length_append, List.length_cons]
      omega

theorem colon_spaces {middle : List UInt8} (hmiddle : IsSpaces middle) (after : List UInt8) :
    colon (middle ++ 0x3A :: after) = .ok () after :=
  colon_of_dropWhile (dropWhile_token hmiddle rfl)

/-- The name of a member and its colon. -/
theorem skipName_of_isQuoted {front label middle : List UInt8} (hfront : IsSpaces front)
    (hlabel : IsQuoted label) (hmiddle : IsSpaces middle) (after : List UInt8) :
    skipName (front ++ 0x22 :: (label ++ 0x22 :: (middle ++ 0x3A :: after))) = .ok () after := by
  have hskip : ∀ text, skip (0x22 :: text) = .ok () text := fun _ => rfl
  rw [skipName, bind_of_ok (peekToken_of_dropWhile (dropWhile_token hfront rfl))]
  show (skip >>= _) (0x22 :: _) = _
  rw [bind_of_ok (hskip _), bind_of_ok hlabel.skipString]
  exact colon_spaces hmiddle after

/-- The members behind one, and the closing brace. -/
theorem closes_separated_members {members : List Member} (hinner : IsSpaces inner)
    (hmembers : ∀ m ∈ members, m.IsMember) (hpass : ∀ m ∈ members, PassedOver m.item.value) :
    ∀ {back : List UInt8}, IsSpaces back →
      Closes .object
        (back ++ (separated false (members.map Member.text) ++ (inner ++ 0x7D :: rest))) rest := by
  induction members with
  | nil =>
      intro back hback
      refine closes_of_endObject ?_
      rw [dropWhile_spaces hback]
      exact dropWhile_token hinner rfl
  | cons m more ih =>
      intro back hback
      obtain ⟨hm, hmore⟩ := List.forall_mem_cons.mp hmembers
      obtain ⟨hvalue, hpass⟩ := List.forall_mem_cons.mp hpass
      have hbehind := hm.behind hinner more rest
      rw [List.map_cons, separated_next, Member.text_append]
      refine closes_of_member (dropWhile_token hback rfl)
        (skipName_of_isQuoted hm.front hm.label hm.middle _) ?_
        (passes_spaces hm.item.front (hvalue _ hbehind) hm.item.value.startsValue)
        (ih hmore hpass hm.item.back)
      simp only [List.length_append, List.length_cons]
      omega

theorem passedOver_braced {members : List Member} (hinner : IsSpaces inner)
    (hmembers : ∀ m ∈ members, m.IsMember) (hpass : ∀ m ∈ members, PassedOver m.item.value) :
    PassedOver (braced inner members) := by
  intro rest hrest
  rw [braced_append]
  cases members with
  | nil =>
      have hend : (inner ++ 0x7D :: rest).dropWhile isSpace = 0x7D :: rest :=
        dropWhile_token hinner rfl
      refine passes_of_valueToken ?_ fun opened => valueToken_object_end rfl hend
      exact Nat.lt_succ_of_lt (length_of_dropWhile hend)
  | cons m more =>
      obtain ⟨hm, hmore⟩ := List.forall_mem_cons.mp hmembers
      obtain ⟨hvalue, hpass⟩ := List.forall_mem_cons.mp hpass
      have hbehind := hm.behind hinner more rest
      rw [List.map_cons, separated_first, Member.text_append]
      refine passes_of_closes ?_
        (fun opened => valueToken_object_open rfl (dropWhile_token hm.front rfl)
          (skipName_of_isQuoted isSpaces_nil hm.label hm.middle _))
        (passes_spaces hm.item.front (hvalue _ hbehind) hm.item.value.startsValue)
        (closes_separated_members hinner hmore hpass hm.item.back)
      simp only [List.length_append, List.length_cons]
      omega

end Brackets

/-- **Every JSON value is passed over**, wherever it stands. -/
theorem passedOver_of_isValue (h : IsValue text) : PassedOver text := by
  induction h with
  | null => exact fun rest _ => passes_null rfl rfl
  | true => exact fun rest _ => passes_true rfl rfl
  | false => exact fun rest _ => passes_false rfl rfl
  | negative h =>
      exact fun rest hrest => passes_negative rfl (h.skipNumber hrest) (by simp)
  | positive h =>
      intro rest hrest
      obtain ⟨b, more, rfl, hb⟩ := h.starts
      refine passes_positive hb (dropWhile_isSpace_cons (isSpace_of_isDigit hb))
        (h.skipNumber hrest) ?_
      rw [List.append_eq, List.length_append]
      exact Nat.le_add_left _ _
  | text h =>
      intro rest hrest
      rw [List.cons_append, List.append_assoc]
      exact passes_text rfl h.skipString (by simp; omega)
  | list hinner hspaces hvalues ih =>
      exact passedOver_bracketed hinner (isItem_of_list hspaces hvalues) ih
  | object hinner hspaces hlabels hvalues ih =>
      exact passedOver_braced hinner (isMember_of_object hspaces hlabels hvalues) ih

end HealthBoard.Json
