/-
What is read from a value hangs on the value alone.

A reader does not know where a value ends.  It finds out by reading, and a number it has read only
when it has seen what comes next.  Yet wherever a value stands, with space, a comma or a closing
bracket behind it, the same is made of it, and it is read to its end and no further (`Settled`).  So
a text can be taken apart into values, and each of them asked for what it says.

Numbers and strings are settled here.  A number is taken apart as the grammar puts it together, and
a reader that takes nothing and looks at nothing (`Still`) ends it.  A string ends at its closing
quote, which passing over it finds as well.
-/
import HealthBoard.Proofs.Json.Passing

namespace HealthBoard.Json

open Reader

variable {α β : Type}

/-- What is read from the text does not hang on what stands behind it. -/
def Settled (r : Reader α) (text : List UInt8) : Prop :=
  ∀ rest, Behind rest → ∀ a left,
    r (text ++ rest) = .ok a left ↔ readAll? r text = some a ∧ left = rest

section Rules

variable {r r' : Reader α} {text text' : List UInt8}

theorem settled_of_iff {P : α → Prop} (h : ∀ rest, Behind rest → ∀ a left,
    r (text ++ rest) = .ok a left ↔ P a ∧ left = rest) : Settled r text := by
  have hall : ∀ a, readAll? r text = some a ↔ P a := by
    intro a
    have hnil := h [] behind_nil a []
    rw [List.append_nil] at hnil
    rw [readAll?_eq_some, hnil]
    exact and_iff_left rfl
  intro rest hrest a left
  rw [h rest hrest, hall]

theorem settled_of_eq (h : ∀ rest, Behind rest → r (text ++ rest) = r' (text' ++ rest))
    (hsettled : Settled r' text') : Settled r text := by
  refine settled_of_iff (P := fun a => readAll? r' text' = some a) fun rest hrest a left => ?_
  rw [h rest hrest]
  exact hsettled rest hrest a left

theorem settled_of_ok {a : α} (h : ∀ rest, Behind rest → r (text ++ rest) = .ok a rest) :
    Settled r text := by
  refine settled_of_iff (P := (· = a)) fun rest hrest b left => ?_
  rw [h rest hrest]
  simp [eq_comm]

theorem settled_of_fails (h : ∀ rest a left, r (text ++ rest) ≠ .ok a left) : Settled r text :=
  settled_of_iff (P := fun _ => False) fun rest _ a left =>
    ⟨fun hok => absurd hok (h rest a left), fun hno => hno.1.elim⟩

/-- The reader takes nothing and looks at nothing. -/
def Still (r : Reader α) : Prop :=
  ∃ a? : Option α, ∀ text a left, r text = .ok a left ↔ a? = some a ∧ left = text

theorem still_pure (a : α) : Still (pure a : Reader α) := by
  refine ⟨some a, fun text b left => ?_⟩
  show EStateM.Result.ok a text = .ok b left ↔ _
  simp [eq_comm]

theorem still_judged (x : Except Mismatch α) : Still (judged x) := by
  cases x with
  | ok a => exact still_pure a
  | error m => exact ⟨none, fun text b left => by simp [judged, mismatch]⟩

theorem Still.settled (h : Still r) : Settled r [] := by
  obtain ⟨a?, h⟩ := h
  exact settled_of_iff (P := fun a => a? = some a) fun rest _ a left => h rest a left

theorem Settled.bind {f : α → Reader β} (h : Settled r text) (hf : ∀ a, Still (f a)) :
    Settled (r >>= f) text := by
  refine settled_of_iff
    (P := fun b => ∃ a, readAll? r text = some a ∧ ∀ rest, f a rest = .ok b rest)
    fun rest hrest b left => ?_
  constructor
  · intro hok
    obtain ⟨a, left', ha, hb⟩ := exists_of_bind_ok hok
    obtain ⟨hall, rfl⟩ := (h rest hrest a left').mp ha
    obtain ⟨b?, hstill⟩ := hf a
    obtain ⟨hsome, rfl⟩ := (hstill _ b left).mp hb
    exact ⟨⟨a, hall, fun rest => (hstill rest b rest).mpr ⟨hsome, rfl⟩⟩, rfl⟩
  · rintro ⟨⟨a, hall, hb⟩, rfl⟩
    rw [bind_of_ok ((h left hrest a left).mpr ⟨hall, rfl⟩)]
    exact hb left

end Rules

theorem readAll?_bind_pure {r : Reader α} {text : List UInt8} (f : α → β) :
    readAll? (r >>= fun a => pure (f a)) text = (readAll? r text).map f := by
  cases hr : r text with
  | error c left => simp only [readAll?, bind, EStateM.bind, hr, Option.map_none]
  | ok a left =>
      cases left <;> simp only [readAll?, bind, EStateM.bind, pure, EStateM.pure, hr,
        Option.map_some, Option.map_none]

/-- The reader does not see the space in front of what it reads. -/
def Trims (r : Reader α) : Prop :=
  ∀ text a left, r (text.dropWhile isSpace) = .ok a left ↔ r text = .ok a left

theorem trims_of_peekToken (f : Option UInt8 → Reader α) : Trims (peekToken >>= f) := by
  intro text a left
  rw [peekToken_bind_dropWhile]

theorem Trims.spaces {r : Reader α} (h : Trims r) {front text rest left : List UInt8} {a : α}
    (hfront : IsSpaces front) (hstart : StartsValue text) :
    r (front ++ (text ++ rest)) = .ok a left ↔ r (text ++ rest) = .ok a left := by
  rw [← h, dropWhile_spaces hfront, hstart.dropWhile]

/-! ### Numbers -/

section Numbers

variable {text : List UInt8}

theorem still_scaled (negative : Bool) (significand : Nat) (exponent : Int) :
    Still (scaled negative significand exponent) := by
  unfold scaled
  cases scaleTen significand.toUInt64.toFloat exponent with
  | some x => exact still_pure _
  | none => exact ⟨none, fun text b left => by simp [fail]⟩

theorem settled_exponentDigits (negative negativeExponent : Bool) (significand : Nat) (start : Int)
    (hdigits : AreDigits text) :
    ∀ e, Settled (exponentDigits negative negativeExponent significand start e) text := by
  induction text with
  | nil =>
      intro e
      refine settled_of_eq (fun rest hrest => ?_)
        (still_scaled negative significand
          (if negativeExponent then start - e else start + e)).settled
      cases rest with
      | nil => rfl
      | cons b rest =>
          have hb : isDigit b = false := (hrest.number_ends b rfl).1
          rw [List.nil_append, exponentDigits, if_neg (by simp [hb])]
          rfl
  | cons d text ih =>
      intro e
      obtain ⟨hd, hdigits⟩ := List.forall_mem_cons.mp hdigits
      by_cases hlarge : greatestExponent < 10 * e + digitValue d
      · by_cases hzero : (significand != 0 && !negativeExponent) = true
        · refine settled_of_fails fun rest a left => ?_
          rw [List.cons_append, exponentDigits, if_pos hd, if_pos hlarge, if_pos hzero]
          intro h
          cases h
        · refine settled_of_ok (a := .float (signed negative 0)) fun rest hrest => ?_
          have hends : ∀ b ∈ rest.head?, isDigit b = false := fun b hb => (hrest.number_ends b hb).1
          rw [List.cons_append, exponentDigits, if_pos hd, if_pos hlarge, if_neg hzero,
            (takeWhile_isDigit_digits hdigits hends).2]
      · refine settled_of_eq (fun rest _ => ?_) (ih hdigits (10 * e + digitValue d))
        rw [List.cons_append, exponentDigits, if_pos hd, if_neg hlarge]

theorem settled_exponentOr {negative : Bool} {significand : Nat} {start : Int} {r : Reader Json}
    (htext : IsExponent text) (hr : Still r) :
    Settled (exponentOr negative significand start r) text := by
  cases htext with
  | none =>
      refine settled_of_eq (fun rest hrest => ?_) hr.settled
      cases rest with
      | nil => rfl
      | cons b rest =>
          obtain ⟨-, -, hsmall, hlarge⟩ := hrest.number_ends b rfl
          simp [exponentOr, peek, bind, EStateM.bind, hsmall, hlarge]
  | @plain e d ds he hd hds =>
      refine settled_of_eq (fun rest _ => ?_)
        (settled_exponentDigits negative false significand start hds (digitValue d))
      rw [← exponent_digit hd]
      rcases he with rfl | rfl <;> rfl
  | @signed e sign d ds he hsign hd hds =>
      refine settled_of_eq (fun rest _ => ?_)
        (settled_exponentDigits negative (sign == 0x2D) significand start hds (digitValue d))
      rw [← exponent_sign hsign hd]
      rcases he with rfl | rfl <;> rfl

theorem settled_fraction (negative : Bool) (significand dropped : Nat) {d : UInt8}
    {ds exponent : List UInt8} (hd : isDigit d = true) (hds : AreDigits ds)
    (he : IsExponent exponent) :
    Settled (fraction negative significand dropped) (d :: (ds ++ exponent)) := by
  have hall : AreDigits (d :: ds) := List.forall_mem_cons.mpr ⟨hd, hds⟩
  have htail : Settled (fractionTail negative dropped
      (fractionDigits significand ((d :: ds).map digitValue)).1
      (fractionDigits significand ((d :: ds).map digitValue)).2) exponent :=
    settled_exponentOr he (still_scaled _ _ _)
  refine settled_of_eq (fun rest hrest => ?_) htail
  obtain ⟨htake, hdrop⟩ := takeWhile_isDigit_digits hall fun b hb => (he.head hrest b hb).1
  have htext : d :: (ds ++ exponent) ++ rest = d :: ds ++ (exponent ++ rest) := by
    simp only [List.cons_append, List.append_assoc]
  rw [htext, fraction_eq (by rw [htake]; exact List.cons_ne_nil _ _), htake, hdrop]

theorem settled_numberTail (negative : Bool) (significand dropped : Nat)
    (htext : IsNumberTail text) : Settled (numberTail negative significand dropped) text := by
  cases htext with
  | whole he =>
      have hplain : Still (if dropped == 0 then pure (wholeNumber negative significand)
          else scaled negative significand dropped) := by
        split
        · exact still_pure _
        · exact still_scaled _ _ _
      exact settled_of_eq
        (fun rest hrest => numberTail_of_head? fun hb => (he.head hrest _ hb).2 rfl)
        (settled_exponentOr he hplain)
  | point hd hds he =>
      exact settled_of_eq (fun rest _ => rfl)
        (settled_fraction negative significand dropped hd hds he)

theorem settled_number (negative : Bool) (htext : IsNumeral text) :
    Settled (Reader.number negative) text := by
  obtain ⟨hwhole, htail⟩ := htext
  cases hwhole with
  | zero =>
      refine settled_of_eq (fun rest hrest => ?_) (settled_numberTail negative 0 0 htail)
      rw [List.append_assoc, List.singleton_append, number_zero (htail.head hrest)]
  | @digits b ds hb hzero hds =>
      refine settled_of_eq (fun rest hrest => ?_) (settled_numberTail negative
        (wholeDigits (digitValue b :: ds.map digitValue)).1
        (wholeDigits (digitValue b :: ds.map digitValue)).2 htail)
      obtain ⟨htake, hdrop⟩ := takeWhile_isDigit_digits hds (htail.head hrest)
      rw [List.append_assoc, List.cons_append, number_digits hb hzero, htake, hdrop]

end Numbers

/-! ### Strings -/

/-- A string is read byte by byte, up to its closing quote. -/
theorem stringBytes_ok {taken bytes left : List UInt8} {text : List UInt8} :
    ∀ {state : StringState}, stringBytes taken state text = .ok bytes left →
      ∃ front, text = front ++ left ∧
        ∀ rest, stringBytes taken state (front ++ rest) = .ok bytes rest := by
  induction text generalizing taken with
  | nil => intro state h; cases h
  | cons b text ih =>
      intro state h
      rw [stringBytes] at h
      by_cases hclose : closesString state b = true
      · rw [if_pos hclose] at h
        cases h
        refine ⟨[b], rfl, fun rest => ?_⟩
        rw [List.singleton_append, stringBytes, if_pos hclose]
      · rw [if_neg hclose] at h
        cases hstep : stringStep state b with
        | error fault =>
            rw [hstep] at h
            cases h
        | ok next =>
            rw [hstep] at h
            obtain ⟨front, rfl, hsame⟩ := ih h
            refine ⟨b :: front, rfl, fun rest => ?_⟩
            rw [List.cons_append, stringBytes, if_neg hclose, hstep]
            exact hsame rest

theorem string_ok {text left : List UInt8} {s : String} (h : string text = .ok s left) :
    ∃ front, text = front ++ left ∧ ∀ rest, string (front ++ rest) = .ok s rest := by
  obtain ⟨bytes, left', hbytes, hdecoded⟩ := exists_of_bind_ok h
  obtain ⟨front, hfront, hsame⟩ := stringBytes_ok hbytes
  cases htext : String.fromUTF8? ⟨bytes.toArray⟩ with
  | none => simp [htext, fail] at hdecoded
  | some s' =>
      simp only [htext] at hdecoded
      cases hdecoded
      refine ⟨front, hfront, fun rest => ?_⟩
      rw [string, bind_of_ok (hsame rest), htext]
      rfl

/-- A string is read to its closing quote, whatever stands behind it. -/
theorem string_append {text : List UInt8} (htext : IsQuoted text) (rest : List UInt8) {s : String}
    {left : List UInt8} : string (text ++ 0x22 :: rest) = .ok s left ↔
      readAll? string (text ++ [0x22]) = some s ∧ left = rest := by
  rw [readAll?_eq_some]
  constructor
  · intro h
    have hskip := (skipString_of_string h).1
    rw [htext.skipString] at hskip
    cases hskip
    obtain ⟨front, hfront, hsame⟩ := string_ok h
    have hsplit : text ++ [0x22] ++ rest = front ++ rest := by
      rw [← hfront, List.append_assoc, List.singleton_append]
    have hquoted : text ++ [0x22] = front := List.append_cancel_right hsplit
    have hnil := hsame []
    rw [List.append_nil, ← hquoted] at hnil
    exact ⟨hnil, rfl⟩
  · rintro ⟨h, rfl⟩
    obtain ⟨front, hfront, hsame⟩ := string_ok h
    rw [List.append_nil] at hfront
    rw [← hsame left, ← hfront, List.append_assoc, List.singleton_append]

theorem settled_string {text : List UInt8} (htext : IsQuoted text) :
    Settled string (text ++ [0x22]) := by
  refine settled_of_iff (P := fun s => readAll? string (text ++ [0x22]) = some s)
    fun rest _ s left => ?_
  rw [List.append_assoc, List.singleton_append]
  exact string_append htext rest

end HealthBoard.Json
