/-
What can be read can be passed over.

A value is read by going down into it, and passed over by a machine that keeps the brackets that are
open in a list.  Both stop at the same place: a value that was read lets the machine go on behind it
with the brackets that were open before (`Passes`), in no more steps than the value has bytes.  The
proof is by induction on the levels of nesting, and inside a list or an object on its items.

The machine checks less.  It takes any bytes for a string as long as the escapes are right, and any
digits for a number; so the converse fails, and nothing of it is needed.
-/
import HealthBoard.Json.ShapeReader
import HealthBoard.Proofs.Json.Number
import HealthBoard.Proofs.Json.Steps

namespace HealthBoard.Json.Reader

variable {left : List UInt8}

/-! ### Strings -/

/-- Where the machine for strings stands after a whole character, or after half of one. -/
def BetweenEscapes (state : StringState) : Prop :=
  state = .plain ∨ ∃ lead, state = .afterLead lead

theorem betweenEscapes_hexStep {value : Nat} {lead : Option Nat} {state : StringState}
    {out : List UInt8} (h : hexStep value lead = .ok (state, out)) : BetweenEscapes state := by
  unfold hexStep at h
  split at h
  · split at h
    · cases h
    split at h
    · cases h
      exact .inr ⟨value, rfl⟩
    · cases h
      exact .inl rfl
  · split at h
    · cases h
      exact .inl rfl
    · cases h

/-- Four digits were read, and made a character or half of one. -/
theorem stringBytes_hex_ok {taken text bytes : List UInt8} {lead : Option Nat}
    (h : stringBytes taken (.hex [] lead) text = .ok bytes left) :
    ∃ a b c d more state taken', text = a :: b :: c :: d :: more ∧
      (hexNumber? [a, b, c, d]).isSome ∧ BetweenEscapes state ∧
      stringBytes taken' state more = .ok bytes left := by
  match text with
  | [] | [_] | [_, _] | [_, _, _] => cases h
  | a :: b :: c :: d :: more =>
      change stringBytes taken (.hex [a, b, c] lead) (d :: more) = _ at h
      rw [stringBytes] at h
      cases hvalue : hexNumber? [a, b, c, d] with
      | none => simp [closesString, stringStep, hvalue, fail] at h
      | some value =>
          cases hstep : hexStep value lead with
          | error fault => simp [closesString, stringStep, hvalue, hstep, fail] at h
          | ok next =>
              obtain ⟨state, out⟩ := next
              have hlast : stringStep (.hex [a, b, c] lead) d = .ok (state, out) := by
                simp [stringStep, hvalue, hstep]
              rw [if_neg (by simp [closesString]), hlast] at h
              have hnumber : (hexNumber? [a, b, c, d]).isSome = true := by
                rw [hvalue]
                rfl
              exact ⟨a, b, c, d, more, state, _, rfl, hnumber, betweenEscapes_hexStep hstep, h⟩

/-- What stands after a backslash was read. -/
theorem stringBytes_escaped_ok {taken text bytes : List UInt8}
    (h : stringBytes taken .escaped text = .ok bytes left) :
    ∃ e more, text = e :: more ∧
      ((e = 0x75 ∧ stringBytes taken (.hex [] none) more = .ok bytes left) ∨
        e ≠ 0x75 ∧ (simpleEscape? e).isSome ∧
          ∃ taken', stringBytes taken' .plain more = .ok bytes left) := by
  cases text with
  | nil => cases h
  | cons e more =>
      refine ⟨e, more, rfl, ?_⟩
      rw [stringBytes] at h
      by_cases hu : e = 0x75
      · subst hu
        exact .inl ⟨rfl, h⟩
      · cases hescape : simpleEscape? e with
        | none => simp [closesString, stringStep, hescape, hu, fail] at h
        | some c =>
            simp only [closesString, stringStep, hescape, hu, beq_iff_eq, if_false] at h
            exact .inr ⟨hu, rfl, _, h⟩

theorem skipString_quote {text : List UInt8} : skipString (0x22 :: text) = .ok () text := by
  rw [skipString.eq_def]
  rfl

theorem skipString_hex {a b c d : UInt8} {text : List UInt8}
    (h : (hexNumber? [a, b, c, d]).isSome) :
    skipString (0x5C :: 0x75 :: a :: b :: c :: d :: text) = skipString text := by
  rw [skipString.eq_def]
  simp [h]

theorem skipString_escape {e : UInt8} {text : List UInt8} (hu : e ≠ 0x75)
    (h : (simpleEscape? e).isSome) : skipString (0x5C :: e :: text) = skipString text := by
  rw [skipString.eq_def]
  simp [hu, h]

theorem skipString_plain {b : UInt8} {text : List UInt8} (hquote : b ≠ 0x22) (hslash : b ≠ 0x5C)
    (hcontrol : ¬ b < 0x20) : skipString (b :: text) = skipString text := by
  rw [skipString.eq_def]
  simp [hquote, hslash, hcontrol]

/-- **A string that was read can be passed over**, and is not empty with its closing quote. -/
theorem skipString_of_stringBytes : ∀ (n : Nat) {text taken bytes : List UInt8}
    {state : StringState}, text.length < n → BetweenEscapes state →
    stringBytes taken state text = .ok bytes left →
      skipString text = .ok () left ∧ left.length < text.length := by
  intro n
  induction n with
  | zero => intro text taken bytes state hlength; cases hlength
  | succ n ih =>
      intro text taken bytes state hlength hstate h
      cases text with
      | nil => cases h
      | cons b text =>
          simp only [List.length_cons] at hlength ⊢
          rcases hstate with rfl | ⟨lead, rfl⟩
          · by_cases hquote : b = 0x22
            · subst hquote
              cases h
              exact ⟨skipString_quote, Nat.lt_succ_self _⟩
            by_cases hslash : b = 0x5C
            · subst hslash
              obtain ⟨e, more, rfl, ⟨rfl, h⟩ | ⟨hu, hescape, taken', h⟩⟩ :=
                stringBytes_escaped_ok h
              · obtain ⟨a, b, c, d, more, state, taken', rfl, hnumber, hstate, h⟩ :=
                  stringBytes_hex_ok h
                simp only [List.length_cons] at hlength ⊢
                obtain ⟨hskip, hleft⟩ := ih (by omega) hstate h
                exact ⟨by rw [skipString_hex hnumber, hskip], by omega⟩
              · simp only [List.length_cons] at hlength ⊢
                obtain ⟨hskip, hleft⟩ := ih (by omega) (.inl rfl) h
                exact ⟨by rw [skipString_escape hu hescape, hskip], by omega⟩
            · have hcontrol : ¬ b < 0x20 := by
                intro hcontrol
                simp [stringBytes, closesString, stringStep, hquote, hslash, hcontrol, fail] at h
              rw [stringBytes_plain hquote hslash hcontrol] at h
              obtain ⟨hskip, hleft⟩ := ih (by omega) (.inl rfl) h
              exact ⟨by rw [skipString_plain hquote hslash hcontrol, hskip], by omega⟩
          · -- after half a character only another escape of four digits can come
            have hslash : b = 0x5C := by
              by_cases hslash : b = 0x5C
              · exact hslash
              · simp [stringBytes, closesString, stringStep, hslash, fail] at h
            subst hslash
            cases text with
            | nil => cases h
            | cons e more =>
                have hu : e = 0x75 := by
                  by_cases hu : e = 0x75
                  · exact hu
                  · change stringBytes taken (.afterLeadSlash lead) (e :: more) = _ at h
                    simp [stringBytes, closesString, stringStep, hu, fail] at h
                subst hu
                change stringBytes taken (.hex [] (some lead)) more = _ at h
                obtain ⟨a, b, c, d, more, state, taken', rfl, hnumber, hstate, h⟩ :=
                  stringBytes_hex_ok h
                simp only [List.length_cons] at hlength ⊢
                obtain ⟨hskip, hleft⟩ := ih (by omega) hstate h
                exact ⟨by rw [skipString_hex hnumber, hskip], by omega⟩

theorem skipString_of_string {text : List UInt8} {s : String} (h : string text = .ok s left) :
    skipString text = .ok () left ∧ left.length < text.length := by
  obtain ⟨bytes, left', hbytes, h⟩ := exists_of_bind_ok h
  cases htext : String.fromUTF8? ⟨bytes.toArray⟩ with
  | none => simp [htext, fail] at h
  | some s' =>
      simp only [htext] at h
      cases h
      exact skipString_of_stringBytes _ (Nat.lt_succ_self _) (.inl rfl) hbytes

/-! ### Numbers -/

theorem scaled_ok {negative : Bool} {significand : Nat} {e : Int} {text : List UInt8} {a : Json}
    (h : scaled negative significand e text = .ok a left) : left = text := by
  unfold scaled at h
  cases hscale : scaleTen significand.toUInt64.toFloat e with
  | none =>
      rw [hscale] at h
      cases h
  | some x =>
      rw [hscale] at h
      cases h
      rfl

/-- The digits of an exponent are all taken. -/
theorem exponentDigits_ok {negative negativeExponent : Bool} {significand : Nat} {start : Int}
    {text : List UInt8} {a : Json} : ∀ {e : Nat},
    exponentDigits negative negativeExponent significand start e text = .ok a left →
      left = text.dropWhile isDigit := by
  induction text with
  | nil =>
      intro e h
      exact scaled_ok h
  | cons b text ih =>
      intro e h
      rw [exponentDigits] at h
      by_cases hb : isDigit b = true
      · rw [if_pos hb] at h
        rw [List.dropWhile_cons_of_pos hb]
        split at h
        · split at h
          · cases h
          · cases h
            rfl
        · exact ih h
      · rw [if_neg hb] at h
        rw [List.dropWhile_cons_of_neg hb]
        exact scaled_ok h

theorem skipExponent_digit {b : UInt8} (hb : isDigit b = true) (text : List UInt8) :
    skipExponent (b :: text) = .ok () (text.dropWhile isDigit) := by
  have hminus : b ≠ 0x2D := by
    rintro rfl
    cases hb
  have hplus : b ≠ 0x2B := by
    rintro rfl
    cases hb
  simp [skipExponent, peek, next, Reader.digits, pure, EStateM.pure, bind, EStateM.bind, hb,
    hminus, hplus]

theorem skipExponent_sign {b c : UInt8} (hb : b = 0x2D ∨ b = 0x2B) (hc : isDigit c = true)
    (text : List UInt8) : skipExponent (b :: c :: text) = .ok () (text.dropWhile isDigit) := by
  rcases hb with rfl | rfl <;>
    simp [skipExponent, peek, next, skip, Reader.digits, pure, EStateM.pure, bind, EStateM.bind, hc]

theorem skipExponent_of_exponent {negative : Bool} {significand : Nat} {start : Int}
    {text : List UInt8} {a : Json} (h : exponent negative significand start text = .ok a left) :
    skipExponent text = .ok () left := by
  rcases exponent_ok h with ⟨b, more, rfl, hb⟩ | ⟨b, c, more, rfl, hsign, hc⟩
  · rw [exponent_digit hb] at h
    rw [exponentDigits_ok h, skipExponent_digit hb]
  · rw [exponent_sign hsign hc] at h
    rw [exponentDigits_ok h, skipExponent_sign hsign hc]

theorem skipExponentTail_of_head? {text : List UInt8}
    (h : ∀ b ∈ text.head?, b ≠ 0x65 ∧ b ≠ 0x45) : skipExponentTail text = .ok () text := by
  cases text with
  | nil => rfl
  | cons b text =>
      obtain ⟨hsmall, hlarge⟩ := h b rfl
      simp [skipExponentTail, peek, pure, EStateM.pure, bind, EStateM.bind, hsmall, hlarge]

theorem skipExponentTail_of_exponentOr {negative : Bool} {significand : Nat} {start : Int}
    {r : Reader Json} {text : List UInt8} {a : Json}
    (hr : ∀ {text left a}, r text = .ok a left → left = text)
    (h : exponentOr negative significand start r text = .ok a left) :
    skipExponentTail text = .ok () left := by
  cases text with
  | nil =>
      rw [hr h]
      rfl
  | cons b text =>
      by_cases he : b = 0x65 ∨ b = 0x45
      · have hexponent : exponent negative significand start text = .ok a left := by
          rcases he with rfl | rfl <;> exact h
        rw [← skipExponent_of_exponent hexponent]
        rcases he with rfl | rfl <;> rfl
      · obtain ⟨hsmall, hlarge⟩ := not_or.mp he
        simp [exponentOr, peek, bind, EStateM.bind, hsmall, hlarge] at h
        rw [hr h]
        refine skipExponentTail_of_head? fun c hc => ?_
        cases Option.some.inj hc
        exact ⟨hsmall, hlarge⟩

theorem skipFraction_eq {text : List UInt8} (h : text.takeWhile isDigit ≠ []) :
    skipFraction text = skipExponentTail (text.dropWhile isDigit) := by
  have hread : Reader.digits text
      = .ok ((text.takeWhile isDigit).map digitValue) (text.dropWhile isDigit) := rfl
  rw [skipFraction, bind_of_ok hread, if_neg (by simpa using h)]

theorem skipFraction_of_fraction {negative : Bool} {significand dropped : Nat}
    {text : List UInt8} {a : Json} (h : fraction negative significand dropped text = .ok a left) :
    skipFraction text = .ok () left := by
  have hdigits := fraction_ok h
  rw [fraction_eq hdigits] at h
  rw [skipFraction_eq hdigits]
  exact skipExponentTail_of_exponentOr scaled_ok h

/-- Without a point, what follows the digits is an exponent or nothing. -/
theorem skipNumberTail_of_head? {text : List UInt8} (h : text.head? ≠ some 0x2E) :
    skipNumberTail text = skipExponentTail text := by
  cases text with
  | nil => rfl
  | cons b text =>
      have hb : b ≠ 0x2E := fun heq => h (by rw [heq]; rfl)
      simp [skipNumberTail, peek, bind, EStateM.bind, hb]

theorem skipNumberTail_of_numberTail {negative : Bool} {significand dropped : Nat}
    {text : List UInt8} {a : Json}
    (h : numberTail negative significand dropped text = .ok a left) :
    skipNumberTail text = .ok () left := by
  by_cases hpoint : text.head? = some 0x2E
  · obtain ⟨more, rfl⟩ : ∃ more, text = 0x2E :: more := List.head?_eq_some_iff.mp hpoint
    have hfraction : fraction negative significand dropped more = .ok a left := h
    exact skipFraction_of_fraction hfraction
  · rw [numberTail_of_head? hpoint] at h
    rw [skipNumberTail_of_head? hpoint]
    refine skipExponentTail_of_exponentOr ?_ h
    intro text left a h
    split at h
    · cases h
      rfl
    · exact scaled_ok h

/-- A number takes some bytes. -/
theorem length_of_number {negative : Bool} {text : List UInt8} {a : Json}
    (h : Reader.number negative text = .ok a left) : left.length < text.length := by
  obtain ⟨b, more, rfl, hb, hlone⟩ := number_ok h
  rw [List.length_cons]
  by_cases hzero : b = 0x30
  · subst hzero
    rw [number_zero (hlone rfl)] at h
    have htail := (stops_numberTail negative 0 0 h).1.length_le
    omega
  · rw [number_digits hb hzero] at h
    have htail := (stops_numberTail negative _ _ h).1.length_le
    have hdigits := (List.dropWhile_suffix (l := more) isDigit).length_le
    omega

/-- A leading zero stands alone. -/
theorem skipNumber_zero {text : List UInt8} (h : ∀ b ∈ text.head?, isDigit b = false) :
    skipNumber (0x30 :: text) = skipNumberTail text := by
  cases text with
  | nil => rfl
  | cons b text =>
      have hb : isDigit b = false := h b rfl
      simp [skipNumber, next, peek, bind, EStateM.bind, hb]

theorem skipNumber_digits {b : UInt8} {text : List UInt8} (hb : isDigit b = true)
    (hzero : b ≠ 0x30) : skipNumber (b :: text) = skipNumberTail (text.dropWhile isDigit) := by
  simp [skipNumber, next, Reader.digits, bind, EStateM.bind, hb, hzero]

/-- **A number that was read can be passed over.** -/
theorem skipNumber_of_number {negative : Bool} {text : List UInt8} {a : Json}
    (h : Reader.number negative text = .ok a left) : skipNumber text = .ok () left := by
  obtain ⟨b, more, rfl, hb, hlone⟩ := number_ok h
  by_cases hzero : b = 0x30
  · subst hzero
    rw [number_zero (hlone rfl)] at h
    rw [skipNumber_zero (hlone rfl), skipNumberTail_of_numberTail h]
  · rw [number_digits hb hzero] at h
    rw [skipNumber_digits hb hzero, skipNumberTail_of_numberTail h]

/-! ### Passing over -/

/-- Behind a value, with brackets still open. -/
def resume (fuel : Nat) (opened : List Bracket) : Reader Unit := do
  match ← afterValue opened with
  | some opened => skipFrom fuel opened
  | none => pure ()

/-- The machine comes from before a value to behind it, and the same brackets are open. -/
def Passes (text left : List UInt8) : Prop :=
  ∃ steps, steps + left.length < text.length ∧
    ∀ fuel opened, skipFrom (fuel + steps + 1) opened text = resume fuel opened left

/-- The machine comes from behind an item or a member to behind the bracket that closes them. -/
def Closes (bracket : Bracket) (text left : List UInt8) : Prop :=
  ∃ steps, steps + left.length < text.length ∧
    ∀ fuel opened, resume (fuel + steps) (bracket :: opened) text = resume fuel opened left

theorem skipFrom_dropWhile (fuel : Nat) (opened : List Bracket) (text : List UInt8) :
    skipFrom (fuel + 1) opened (text.dropWhile isSpace) = skipFrom (fuel + 1) opened text := by
  have htoken : valueToken opened (text.dropWhile isSpace) = valueToken opened text :=
    peekToken_bind_dropWhile _ text
  simp only [skipFrom, bind, EStateM.bind, htoken]

/-- A scalar takes one step. -/
theorem passes_of_valueToken {text : List UInt8} (hlength : left.length < text.length)
    (h : ∀ opened, valueToken opened text = afterValue opened left) : Passes text left := by
  refine ⟨0, by omega, ?_⟩
  intro fuel opened
  have hgoesOn : ∀ f : Option (List Bracket) → Reader Unit,
      (valueToken opened >>= f) text = (afterValue opened >>= f) left := by
    intro f
    simp only [bind, EStateM.bind, h]
  exact hgoesOn _

section Brackets

variable {fuel : Nat} {opened : List Bracket} {text more : List UInt8}

theorem resume_endList (h : text.dropWhile isSpace = 0x5D :: more) :
    resume fuel (.list :: opened) text = resume fuel opened more := by
  simp only [resume, afterValue, bind, EStateM.bind, peekToken_of_dropWhile h]
  rfl

theorem resume_item (h : text.dropWhile isSpace = 0x2C :: more) :
    resume fuel (.list :: opened) text = skipFrom fuel (.list :: opened) more := by
  simp only [resume, afterValue, bind, EStateM.bind, peekToken_of_dropWhile h]
  rfl

theorem resume_endObject (h : text.dropWhile isSpace = 0x7D :: more) :
    resume fuel (.object :: opened) text = resume fuel opened more := by
  simp only [resume, afterValue, bind, EStateM.bind, peekToken_of_dropWhile h]
  rfl

theorem skipName_of_string {later named value : List UInt8} {name : String}
    (hquote : later.dropWhile isSpace = 0x22 :: more) (hname : string more = .ok name named)
    (hcolon : colon named = .ok () value) : skipName later = .ok () value := by
  have hskip : skip (0x22 :: more) = .ok () more := rfl
  rw [skipName, bind_of_ok (peekToken_of_dropWhile hquote)]
  show (skip >>= _) (0x22 :: more) = _
  rw [bind_of_ok hskip, bind_of_ok (skipString_of_string hname).1, hcolon]

theorem resume_member {later value : List UInt8} (h : text.dropWhile isSpace = 0x2C :: later)
    (hname : skipName later = .ok () value) :
    resume fuel (.object :: opened) text = skipFrom fuel (.object :: opened) value := by
  have hskip : ∀ text, skip (0x2C :: text) = .ok () text := fun _ => rfl
  simp only [resume, afterValue, bind, EStateM.bind, peekToken_of_dropWhile h, hskip, hname]
  rfl

theorem closes_of_endList (h : text.dropWhile isSpace = 0x5D :: more) :
    Closes .list text more := by
  have hlength := length_of_dropWhile h
  exact ⟨0, by omega, fun fuel opened => resume_endList h⟩

theorem closes_of_endObject (h : text.dropWhile isSpace = 0x7D :: more) :
    Closes .object text more := by
  have hlength := length_of_dropWhile h
  exact ⟨0, by omega, fun fuel opened => resume_endObject h⟩

/-- The name of a member and its colon take some bytes. -/
theorem length_of_name {named value : List UInt8} {name : String}
    (hname : string more = .ok name named) (hcolon : colon named = .ok () value) :
    value.length < more.length := by
  have hstring := (skipString_of_string hname).2
  have hlength := length_of_dropWhile (colon_ok hcolon)
  omega

end Brackets

/-- A comma and an item, and what closes the list behind it. -/
theorem closes_of_item {text later after : List UInt8}
    (htext : text.dropWhile isSpace = 0x2C :: later)
    (hitem : Passes (later.dropWhile isSpace) after)
    (hrest : Closes .list after left) : Closes .list text left := by
  obtain ⟨steps, hsteps, hpass⟩ := hitem
  obtain ⟨steps', hsteps', hclose⟩ := hrest
  have hlength := length_of_dropWhile htext
  have hstart := (List.dropWhile_suffix (l := later) isSpace).length_le
  refine ⟨steps' + steps + 1, by omega, ?_⟩
  intro fuel opened
  have hfuel : fuel + (steps' + steps + 1) = fuel + steps' + steps + 1 := by omega
  rw [resume_item htext, hfuel, ← skipFrom_dropWhile, hpass, hclose]

/-- The items behind the first, and the closing bracket. -/
theorem closes_items {α : Type} {item : Nat → Reader α}
    (hitem : ∀ {index text left a}, item index text = .ok a left → Passes text left) :
    ∀ {fuel index : Nat} {text rest : List UInt8} {all : List α},
      itemsFrom item fuel (index + 1) text = .ok all rest → endList rest = .ok () left →
        Closes .list text left := by
  intro fuel
  induction fuel with
  | zero => intro index text rest all h; cases h
  | succ fuel ih =>
      intro index text rest all h hend
      rcases itemsFrom_ok h with ⟨hnone, -⟩ | ⟨start, a, after, more, hnext, ha, hmore, -⟩
      · obtain ⟨-, more, htext, rfl⟩ | ⟨h, -⟩ | ⟨h, -⟩ := hasItem_ok hnone
        · cases endList_ok hend
          exact closes_of_endList htext
        · cases h
        · cases h
      · obtain ⟨h, -⟩ | ⟨-, h, -⟩ | ⟨-, -, later, htext, rfl⟩ := hasItem_ok hnext
        · cases h
        · cases h
        exact closes_of_item htext (hitem ha) (ih hmore hend)

/-- A comma and a member, and what closes the object behind it. -/
theorem closes_of_member {text later value after : List UInt8}
    (htext : text.dropWhile isSpace = 0x2C :: later) (hname : skipName later = .ok () value)
    (hlength : value.length ≤ later.length) (hvalue : Passes value after)
    (hrest : Closes .object after left) : Closes .object text left := by
  obtain ⟨steps, hsteps, hpass⟩ := hvalue
  obtain ⟨steps', hsteps', hclose⟩ := hrest
  have hstart := length_of_dropWhile htext
  refine ⟨steps' + steps + 1, by omega, ?_⟩
  intro fuel opened
  have hfuel : fuel + (steps' + steps + 1) = fuel + steps' + steps + 1 := by omega
  rw [resume_member htext hname, hfuel, hpass, hclose]

/-- The members behind the first, and the closing brace. -/
theorem closes_members {ε σ : Type} {step : String → σ → Reader (Except ε σ)}
    (hstep : ∀ {name state named next after}, step name state named = .ok (.ok next) after →
      ∃ value, colon named = .ok () value ∧ Passes value after) :
    ∀ {fuel : Nat} {state final : σ} {text rest : List UInt8},
      foldMembersFrom step fuel false state text = .ok (.ok final) rest →
        endObject rest = .ok () left → Closes .object text left := by
  intro fuel
  induction fuel with
  | zero => intro state final text rest h; cases h
  | succ fuel ih =>
      intro state final text rest h hend
      rcases foldMembersFrom_ok h with
        ⟨hnone, -⟩ | ⟨more, name, named, next, after, hnext, hname, hmember, hmore⟩
      · obtain ⟨-, more, htext, rfl⟩ | ⟨h, -⟩ | ⟨h, -⟩ := hasMember_ok hnone
        · cases endObject_ok hend
          exact closes_of_endObject htext
        · cases h
        · cases h
      · obtain ⟨h, -⟩ | ⟨-, h, -⟩ | ⟨-, -, later, more', htext, hquote, h⟩ := hasMember_ok hnext
        · cases h
        · cases h
        cases h
        obtain ⟨value, hcolon, hpass⟩ := hstep hmember
        have hquoted := length_of_dropWhile hquote
        have hvalue := length_of_name hname hcolon
        exact closes_of_member htext (skipName_of_string hquote hname hcolon) (by omega) hpass
          (ih hmore hend)

theorem skipFrom_of_valueToken {fuel : Nat} {opened inside : List Bracket}
    {text start : List UInt8} (h : valueToken opened text = .ok (some inside) start) :
    skipFrom (fuel + 1) opened text = skipFrom fuel inside start := by
  rw [skipFrom, bind_of_ok h]

/-- A bracket with something inside: one step for the bracket, then the first part, then the
rest. -/
theorem passes_of_closes {bracket : Bracket} {text start after : List UInt8}
    (hlength : start.length < text.length)
    (htoken : ∀ opened, valueToken opened text = .ok (some (bracket :: opened)) start)
    (hfirst : Passes start after) (hrest : Closes bracket after left) : Passes text left := by
  obtain ⟨steps, hsteps, hpass⟩ := hfirst
  obtain ⟨steps', hsteps', hclose⟩ := hrest
  refine ⟨steps' + steps + 1, by omega, ?_⟩
  intro fuel opened
  have hfuel : fuel + (steps' + steps + 1) = fuel + steps' + steps + 1 := by omega
  rw [hfuel, skipFrom_of_valueToken (htoken opened), hpass, hclose]

/-! ### Opening brackets -/

section Opening

variable {opened : List Bracket} {text more inside : List UInt8}

theorem valueToken_list_end (hstart : text.dropWhile isSpace = 0x5B :: more)
    (htext : more.dropWhile isSpace = 0x5D :: inside) :
    valueToken opened text = afterValue opened inside := by
  have hskip : skip (0x5B :: more) = .ok () more := rfl
  rw [valueToken, bind_of_ok (peekToken_of_dropWhile hstart)]
  show (skip >>= _) (0x5B :: more) = _
  rw [bind_of_ok hskip, bind_of_ok (peekToken_of_dropWhile htext)]
  rfl

theorem valueToken_list_open {b : UInt8} (hstart : text.dropWhile isSpace = 0x5B :: more)
    (htext : more.dropWhile isSpace = b :: inside) (hb : b ≠ 0x5D) :
    valueToken opened text = .ok (some (.list :: opened)) (b :: inside) := by
  have hskip : skip (0x5B :: more) = .ok () more := rfl
  rw [valueToken, bind_of_ok (peekToken_of_dropWhile hstart)]
  show (skip >>= _) (0x5B :: more) = _
  rw [bind_of_ok hskip, bind_of_ok (peekToken_of_dropWhile htext)]
  simp [pure, EStateM.pure]

theorem valueToken_object_end (hstart : text.dropWhile isSpace = 0x7B :: more)
    (htext : more.dropWhile isSpace = 0x7D :: inside) :
    valueToken opened text = afterValue opened inside := by
  have hskip : skip (0x7B :: more) = .ok () more := rfl
  rw [valueToken, bind_of_ok (peekToken_of_dropWhile hstart)]
  show (skip >>= _) (0x7B :: more) = _
  rw [bind_of_ok hskip, bind_of_ok (peekToken_of_dropWhile htext)]
  rfl

theorem valueToken_object_open {value : List UInt8}
    (hstart : text.dropWhile isSpace = 0x7B :: more)
    (htext : more.dropWhile isSpace = 0x22 :: inside)
    (hname : skipName (0x22 :: inside) = .ok () value) :
    valueToken opened text = .ok (some (.object :: opened)) value := by
  have hskip : skip (0x7B :: more) = .ok () more := rfl
  rw [valueToken, bind_of_ok (peekToken_of_dropWhile hstart)]
  show (skip >>= _) (0x7B :: more) = _
  rw [bind_of_ok hskip, bind_of_ok (peekToken_of_dropWhile htext)]
  show (skipName >>= _) (0x22 :: inside) = _
  rw [bind_of_ok hname]
  rfl

end Opening

theorem passes_list {α : Type} {item : Nat → Reader α}
    (hitem : ∀ {index text left a}, item index text = .ok a left → Passes text left)
    {text more : List UInt8} {all : List α} (hstart : text.dropWhile isSpace = 0x5B :: more)
    (h : items item more = .ok all left) : Passes text left := by
  have hlength := length_of_dropWhile hstart
  obtain ⟨rest, hitems, hend⟩ := items_ok h
  rcases itemsFrom_ok hitems with ⟨hnone, -⟩ | ⟨start, a, after, later, hnext, ha, hlater, -⟩
  · obtain ⟨-, more', htext, rfl⟩ | ⟨h, -⟩ | ⟨h, -⟩ := hasItem_ok hnone
    · cases endList_ok hend
      have hinside := length_of_dropWhile htext
      exact passes_of_valueToken (by omega) fun opened => valueToken_list_end hstart htext
    · cases h
    · cases h
  · obtain ⟨h, -⟩ | ⟨-, -, rfl, b, more', htext, hb⟩ | ⟨-, h, -⟩ := hasItem_ok hnext
    · cases h
    · have hinside := (List.dropWhile_suffix (l := more) isSpace).length_le
      refine passes_of_closes (by omega) ?_ (hitem ha) (closes_items hitem hlater hend)
      intro opened
      rw [htext]
      exact valueToken_list_open hstart htext hb
    · cases h

theorem passes_object {ε σ : Type} {step : String → σ → Reader (Except ε σ)}
    (hstep : ∀ {name state named next after}, step name state named = .ok (.ok next) after →
      ∃ value, colon named = .ok () value ∧ Passes value after)
    {text more rest : List UInt8} {fuel : Nat} {state final : σ}
    (hstart : text.dropWhile isSpace = 0x7B :: more)
    (h : foldMembersFrom step fuel true state more = .ok (.ok final) rest)
    (hend : endObject rest = .ok () left) : Passes text left := by
  have hlength := length_of_dropWhile hstart
  cases fuel with
  | zero => cases h
  | succ fuel =>
      rcases foldMembersFrom_ok h with
        ⟨hnone, -⟩ | ⟨quoted, name, named, next, after, hnext, hname, hmember, hmore⟩
      · obtain ⟨-, more', htext, rfl⟩ | ⟨h, -⟩ | ⟨h, -⟩ := hasMember_ok hnone
        · cases endObject_ok hend
          have hinside := length_of_dropWhile htext
          exact passes_of_valueToken (by omega) fun opened => valueToken_object_end hstart htext
        · cases h
        · cases h
      · obtain ⟨h, -⟩ | ⟨-, -, quoted', htext, h⟩ | ⟨-, h, -⟩ := hasMember_ok hnext
        · cases h
        · cases h
          obtain ⟨value, hcolon, hpass⟩ := hstep hmember
          have hinside := length_of_dropWhile htext
          have hvalue := length_of_name hname hcolon
          have hskip : skipName (0x22 :: quoted) = .ok () value :=
            skipName_of_string rfl hname hcolon
          exact passes_of_closes (by omega)
            (fun opened => valueToken_object_open hstart htext hskip) hpass
            (closes_members hstep hmore hend)
        · cases h

section Scalars

variable {text more : List UInt8}

/-- A scalar whose first byte tells which reader goes on behind it. -/
theorem passes_of_skip {b : UInt8} {r : Reader Unit} (hstart : text.dropWhile isSpace = b :: more)
    (hr : r more = .ok () left) (hmore : left.length ≤ more.length)
    (htoken : ∀ opened, valueToken opened text
      = (do skip; r; afterValue opened : Reader (Option (List Bracket))) (b :: more)) :
    Passes text left := by
  have hlength := length_of_dropWhile hstart
  have hskip : skip (b :: more) = .ok () more := rfl
  refine passes_of_valueToken (by omega) ?_
  intro opened
  rw [htoken, bind_of_ok hskip, bind_of_ok hr]

theorem length_of_word {bs : List UInt8} (h : word bs more = .ok () left) :
    left.length ≤ more.length := by
  rw [word_ok h, List.length_append]
  exact Nat.le_add_left _ _

theorem passes_null (hstart : text.dropWhile isSpace = 0x6E :: more)
    (hword : word ull more = .ok () left) : Passes text left := by
  refine passes_of_skip hstart hword (length_of_word hword) ?_
  intro opened
  rw [valueToken, bind_of_ok (peekToken_of_dropWhile hstart)]
  rfl

theorem passes_true (hstart : text.dropWhile isSpace = 0x74 :: more)
    (hword : word rue more = .ok () left) : Passes text left := by
  refine passes_of_skip hstart hword (length_of_word hword) ?_
  intro opened
  rw [valueToken, bind_of_ok (peekToken_of_dropWhile hstart)]
  rfl

theorem passes_false (hstart : text.dropWhile isSpace = 0x66 :: more)
    (hword : word alse more = .ok () left) : Passes text left := by
  refine passes_of_skip hstart hword (length_of_word hword) ?_
  intro opened
  rw [valueToken, bind_of_ok (peekToken_of_dropWhile hstart)]
  rfl

theorem passes_negative (hstart : text.dropWhile isSpace = 0x2D :: more)
    (hnumber : skipNumber more = .ok () left) (hmore : left.length ≤ more.length) :
    Passes text left := by
  refine passes_of_skip hstart hnumber hmore ?_
  intro opened
  rw [valueToken, bind_of_ok (peekToken_of_dropWhile hstart)]
  rfl

theorem passes_positive {b : UInt8} (hdigit : isDigit b = true)
    (hstart : text.dropWhile isSpace = b :: more) (hnumber : skipNumber (b :: more) = .ok () left)
    (hmore : left.length ≤ more.length) : Passes text left := by
  have hlength := (List.dropWhile_suffix (l := text) isSpace).length_le
  rw [hstart, List.length_cons] at hlength
  refine passes_of_valueToken (by omega) ?_
  intro opened
  have hne : ∀ c : UInt8, isDigit c = false → ¬ (b == c) = true := by
    intro c hc
    rw [beq_of_isDigit hdigit hc]
    exact Bool.false_ne_true
  rw [valueToken, bind_of_ok (peekToken_of_dropWhile hstart)]
  simp only
  rw [if_neg (hne 0x6E rfl), if_neg (hne 0x74 rfl), if_neg (hne 0x66 rfl), if_neg (hne 0x2D rfl),
    if_pos hdigit, bind_of_ok hnumber]

theorem passes_text (hstart : text.dropWhile isSpace = 0x22 :: more)
    (hstring : skipString more = .ok () left) (hmore : left.length ≤ more.length) :
    Passes text left := by
  refine passes_of_skip hstart hstring hmore ?_
  intro opened
  rw [valueToken, bind_of_ok (peekToken_of_dropWhile hstart)]
  rfl

theorem passes_of_number (negative : Bool) {j : Json}
    (hstart : text.dropWhile isSpace = if negative then 0x2D :: more else more)
    (hnumber : Reader.number negative more = .ok j left) : Passes text left := by
  have hskip := skipNumber_of_number hnumber
  have hlength := length_of_number hnumber
  cases negative with
  | true => exact passes_negative hstart hskip (by omega)
  | false =>
      obtain ⟨b, more, rfl, hb, -⟩ := number_ok hnumber
      exact passes_positive hb hstart hskip (Nat.le_of_lt_succ hlength)

theorem passes_of_string {s : String} (hstart : text.dropWhile isSpace = 0x22 :: more)
    (hstring : string more = .ok s left) : Passes text left := by
  obtain ⟨hskip, hlength⟩ := skipString_of_string hstring
  exact passes_text hstart hskip (by omega)

end Scalars

/-- **A value that was read can be passed over.** -/
theorem passes_of_value : ∀ {depth : Nat} {text : List UInt8} {j : Json} {left : List UInt8},
    value depth text = .ok j left → Passes text left := by
  intro depth
  induction depth with
  | zero => intro text j left h; cases h
  | succ depth ih =>
      intro text j left h
      cases isRead_of_value h with
      | null hstart hword => exact passes_null hstart hword
      | true hstart hword => exact passes_true hstart hword
      | false hstart hword => exact passes_false hstart hword
      | negative hstart hnumber => exact passes_of_number true hstart hnumber
      | positive _ hstart hnumber => exact passes_of_number false hstart hnumber
      | text hstart hstring => exact passes_of_string hstart hstring
      | list hstart _ hitems => exact passes_list ih hstart hitems
      | object hstart _ hmembers =>
          obtain ⟨rest, hfold, hend⟩ := closing_ok hmembers
          refine passes_object ?_ hstart hfold hend
          intro name state named next after hstep
          obtain ⟨_, value, hcolon, hstep⟩ := exists_of_bind_ok hstep
          obtain ⟨j, left', hvalue, hstep⟩ := exists_of_bind_ok hstep
          cases hstep
          exact ⟨value, hcolon, ih hvalue⟩

/-- A value that the machine comes behind is passed over. -/
theorem Passes.skipValue {text : List UInt8} (h : Passes text left) :
    skipValue text = .ok () left := by
  obtain ⟨steps, hsteps, hpass⟩ := h
  have hfuel : text.length + 1 = (text.length - steps) + steps + 1 := by omega
  rw [Reader.skipValue, hfuel, hpass]
  rfl

end HealthBoard.Json.Reader
