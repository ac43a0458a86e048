/-
The names of the members of the objects in a text.

That no object has two members of the same name is said of the text itself, before anything is read:
an object is gone through member by member, each name read and each value passed over
(`memberTexts`), and what was passed over is looked at in the same way, one level of nesting further
down (`distinctNames`).

A bound on the levels makes this a function on texts.  It is not felt: whatever is inside a list or
an object is shorter than the text it is in, since no step of passing over leaves more than there
was (`Shrinks`), so the bytes of a text are levels enough (`noRepeats_iff`).
-/
import HealthBoard.Proofs.Json.Skipped

namespace HealthBoard.Json.Reader

variable {left : List UInt8}

/-- The text from a value on; the value is passed over. -/
def passed : Reader (List UInt8) := fun text =>
  match skipValue text with
  | .ok _ left => .ok text left
  | .error c left => .error c left

/-- The names of the members of an object, and the text from each value on. -/
def memberTexts : (fuel : Nat) → (first : Bool) → Reader (List (String × List UInt8))
  | 0, _ => fail .endInObject
  | fuel + 1, first => do
    if ← hasMember first then
      skip
      let name ← string
      colon
      let text ← passed
      let more ← memberTexts fuel false
      pure ((name, text) :: more)
    else pure []

/-- No object has two members of the same name, as far as that many levels of nesting down. -/
def distinctNames : (levels : Nat) → List UInt8 → Bool
  | 0, _ => true
  | levels + 1, text =>
    match text.dropWhile isSpace with
    | 0x7B :: rest =>
      match memberTexts (rest.length + 1) true rest with
      | .ok members _ =>
        decide (members.map Prod.fst).Nodup && members.all fun m => distinctNames levels m.2
      | .error _ _ => true
    | 0x5B :: rest =>
      match itemsFrom (fun _ => passed) (rest.length + 1) 0 rest with
      | .ok texts _ => texts.all (distinctNames levels)
      | .error _ _ => true
    | _ => true

theorem passed_of_skipValue {text : List UInt8} (h : skipValue text = .ok () left) :
    passed text = .ok text left := by
  rw [passed, h]

theorem passed_ok {text start : List UInt8} (h : passed start = .ok text left) :
    text = start ∧ skipValue start = .ok () left := by
  unfold passed at h
  cases hskip : skipValue start with
  | ok _ rest =>
      rw [hskip] at h
      cases h
      exact ⟨rfl, rfl⟩
  | error c rest =>
      rw [hskip] at h
      cases h

theorem memberTexts_ok {fuel : Nat} {first : Bool} {text : List UInt8}
    {members : List (String × List UInt8)}
    (h : memberTexts (fuel + 1) first text = .ok members left) :
    (hasMember first text = .ok false left ∧ members = []) ∨
    ∃ more name named value after later, hasMember first text = .ok true (0x22 :: more) ∧
      string more = .ok name named ∧ colon named = .ok () value ∧
      skipValue value = .ok () after ∧ memberTexts fuel false after = .ok later left ∧
      members = (name, value) :: later := by
  obtain ⟨found, start, hmember, h⟩ := exists_of_bind_ok h
  cases found with
  | false =>
      cases h
      exact .inl ⟨hmember, rfl⟩
  | true =>
      obtain ⟨more, rfl⟩ := quote_of_hasMember hmember
      obtain ⟨_, _, hskip, h⟩ := exists_of_bind_ok (r := skip) h
      cases hskip
      obtain ⟨name, named, hname, h⟩ := exists_of_bind_ok h
      obtain ⟨_, value, hcolon, h⟩ := exists_of_bind_ok h
      obtain ⟨start, after, hpassed, h⟩ := exists_of_bind_ok (r := passed) h
      obtain ⟨hstart, hvalue⟩ := passed_ok hpassed
      obtain ⟨later, left', hlater, h⟩ := exists_of_bind_ok (r := memberTexts fuel false) h
      rw [hstart] at h
      cases h
      exact .inr ⟨more, name, named, _, after, later, hmember, hname, hcolon, hvalue, hlater, rfl⟩

theorem memberTexts_cons {fuel : Nat} {first : Bool}
    {text more named value after : List UInt8} {name : String}
    {later : List (String × List UInt8)} (hmember : hasMember first text = .ok true (0x22 :: more))
    (hname : string more = .ok name named) (hcolon : colon named = .ok () value)
    (hskip : skipValue value = .ok () after)
    (hlater : memberTexts fuel false after = .ok later left) :
    memberTexts (fuel + 1) first text = .ok ((name, value) :: later) left := by
  have hquote : skip (0x22 :: more) = .ok () more := rfl
  rw [memberTexts, bind_of_ok hmember, if_pos rfl, bind_of_ok hquote, bind_of_ok hname,
    bind_of_ok hcolon, bind_of_ok (passed_of_skipValue hskip), bind_of_ok hlater]
  rfl

theorem memberTexts_nil {fuel : Nat} {first : Bool} {text : List UInt8}
    (hmember : hasMember first text = .ok false left) :
    memberTexts (fuel + 1) first text = .ok [] left := by
  rw [memberTexts, bind_of_ok hmember, if_neg (by simp)]
  rfl

/-! ### Nothing grows -/

/-- What is left is no longer than the text. -/
def Shrinks {α : Type} (r : Reader α) : Prop :=
  ∀ text left a, r text = .ok a left → left.length ≤ text.length

section Shrinks

variable {α β : Type}

theorem shrinks_bind {r : Reader α} {f : α → Reader β} (hr : Shrinks r)
    (hf : ∀ a, Shrinks (f a)) : Shrinks (r >>= f) := by
  intro text left b h
  obtain ⟨a, start, ha, hb⟩ := exists_of_bind_ok h
  exact Nat.le_trans (hf a _ _ _ hb) (hr _ _ _ ha)

theorem shrinks_pure (a : α) : Shrinks (pure a : Reader α) := by
  intro text left b h
  cases h
  exact Nat.le_refl _

theorem shrinks_fail (fault : SyntaxFault) : Shrinks (fail fault : Reader α) := by
  intro text left a h
  cases h

theorem shrinks_failNext (fault : SyntaxFault) : Shrinks (failNext fault : Reader α) := by
  intro text left a h
  cases h

theorem shrinks_peek : Shrinks peek := by
  intro text left head h
  cases h
  exact Nat.le_refl _

theorem shrinks_skip : Shrinks skip := by
  intro text left _ h
  cases h
  rw [List.length_tail]
  exact Nat.sub_le _ _

theorem shrinks_next : Shrinks next := by
  intro text left head h
  cases h
  rw [List.length_tail]
  exact Nat.sub_le _ _

theorem shrinks_peekToken : Shrinks peekToken := by
  intro text left head h
  cases h
  exact (List.dropWhile_suffix (l := text) isSpace).length_le

theorem shrinks_digits : Shrinks digits := by
  intro text left ds h
  cases h
  exact (List.dropWhile_suffix (l := text) isDigit).length_le

theorem shrinks_word (bs : List UInt8) : Shrinks (word bs) := by
  intro text left _ h
  rw [word_ok h, List.length_append]
  exact Nat.le_add_left _ _

theorem shrinks_colon : Shrinks colon := by
  intro text left _ h
  exact Nat.le_of_lt (length_of_dropWhile (colon_ok h))

/-- By the cases of the function: a quote ends the string, anything else takes bytes and goes on. -/
theorem shrinks_skipString : Shrinks skipString := by
  intro text left a h
  fun_induction skipString text <;> grind [fail]

theorem shrinks_skipExponent : Shrinks skipExponent := by
  refine shrinks_bind shrinks_peek fun sign => ?_
  show Shrinks (if _ then _ else _)
  split
  case' isTrue => refine shrinks_bind shrinks_skip fun _ => ?_
  all_goals
    refine shrinks_bind shrinks_next fun head => ?_
    split
    · split
      · exact shrinks_bind shrinks_digits fun _ => shrinks_pure _
      · exact shrinks_fail _
    · exact shrinks_fail _

theorem shrinks_skipExponentTail : Shrinks skipExponentTail := by
  refine shrinks_bind shrinks_peek fun head => ?_
  split
  · exact shrinks_bind shrinks_skip fun _ => shrinks_skipExponent
  · exact shrinks_bind shrinks_skip fun _ => shrinks_skipExponent
  · exact shrinks_pure _

theorem shrinks_skipFraction : Shrinks skipFraction := by
  refine shrinks_bind shrinks_digits fun ds => ?_
  split
  · exact shrinks_failNext _
  · exact shrinks_skipExponentTail

theorem shrinks_skipNumberTail : Shrinks skipNumberTail := by
  refine shrinks_bind shrinks_peek fun head => ?_
  split
  · exact shrinks_bind shrinks_skip fun _ => shrinks_skipFraction
  · exact shrinks_skipExponentTail

theorem shrinks_skipNumber : Shrinks skipNumber := by
  refine shrinks_bind shrinks_next fun head => ?_
  cases head with
  | none => exact shrinks_fail _
  | some b =>
    simp only
    split
    · refine shrinks_bind shrinks_peek fun head => ?_
      cases head with
      | none => exact shrinks_pure _
      | some c =>
        simp only
        split
        · exact shrinks_failNext _
        · exact shrinks_skipNumberTail
    split
    · exact shrinks_bind shrinks_digits fun _ => shrinks_skipNumberTail
    · exact shrinks_fail _

theorem shrinks_skipName : Shrinks skipName := by
  refine shrinks_bind shrinks_peekToken fun head => ?_
  split
  · exact shrinks_bind shrinks_skip fun _ =>
      shrinks_bind shrinks_skipString fun _ => shrinks_colon
  · exact shrinks_failNext _
  · exact shrinks_failNext _

theorem shrinks_afterValue (opened : List Bracket) : Shrinks (afterValue opened) := by
  induction opened with
  | nil => exact shrinks_pure _
  | cons bracket outer ih =>
    cases bracket with
    | list =>
      refine shrinks_bind shrinks_peekToken fun head => ?_
      split
      · exact shrinks_bind shrinks_skip fun _ => shrinks_pure _
      · exact shrinks_bind shrinks_skip fun _ => ih
      · exact shrinks_failNext _
      · exact shrinks_failNext _
    | object =>
      refine shrinks_bind shrinks_peekToken fun head => ?_
      split
      · exact shrinks_bind shrinks_skip fun _ =>
          shrinks_bind shrinks_skipName fun _ => shrinks_pure _
      · exact shrinks_bind shrinks_skip fun _ => ih
      · exact shrinks_failNext _
      · exact shrinks_failNext _

theorem shrinks_valueToken (opened : List Bracket) : Shrinks (valueToken opened) := by
  refine shrinks_bind shrinks_peekToken fun head => ?_
  have hafter : ∀ {r : Reader Unit}, Shrinks r →
      Shrinks (do r; afterValue opened : Reader (Option (List Bracket))) :=
    fun hr => shrinks_bind hr fun _ => shrinks_afterValue opened
  cases head with
  | none => exact shrinks_failNext _
  | some b =>
    simp only
    split
    · exact shrinks_bind shrinks_skip fun _ => hafter (shrinks_word _)
    split
    · exact shrinks_bind shrinks_skip fun _ => hafter (shrinks_word _)
    split
    · exact shrinks_bind shrinks_skip fun _ => hafter (shrinks_word _)
    split
    · exact shrinks_bind shrinks_skip fun _ => hafter shrinks_skipNumber
    split
    · exact hafter shrinks_skipNumber
    split
    · exact shrinks_bind shrinks_skip fun _ => hafter shrinks_skipString
    split
    · refine shrinks_bind shrinks_skip fun _ => shrinks_bind shrinks_peekToken fun head => ?_
      split
      · exact hafter shrinks_skip
      · exact shrinks_pure _
      · exact shrinks_failNext _
    split
    · refine shrinks_bind shrinks_skip fun _ => shrinks_bind shrinks_peekToken fun head => ?_
      split
      · exact hafter shrinks_skip
      · exact shrinks_bind shrinks_skipName fun _ => shrinks_pure _
      · exact shrinks_failNext _
    · exact shrinks_failNext _

theorem shrinks_skipFrom (fuel : Nat) (opened : List Bracket) : Shrinks (skipFrom fuel opened) := by
  induction fuel generalizing opened with
  | zero => exact shrinks_fail _
  | succ fuel ih =>
    refine shrinks_bind (shrinks_valueToken opened) fun inside => ?_
    cases inside with
    | none => exact shrinks_pure _
    | some inside => exact ih inside

theorem shrinks_skipValue : Shrinks skipValue :=
  fun text => shrinks_skipFrom (text.length + 1) [] text

end Shrinks

/-! ### Levels enough -/

theorem length_of_hasItem {first : Bool} {text : List UInt8}
    (h : hasItem first text = .ok true left) : left.length ≤ text.length := by
  rcases hasItem_ok h with ⟨h, -⟩ | ⟨-, -, rfl, -⟩ | ⟨-, -, more, htext, rfl⟩
  · cases h
  · exact (List.dropWhile_suffix (l := text) isSpace).length_le
  · have hmore := (List.dropWhile_suffix (l := more) isSpace).length_le
    have hcomma := length_of_dropWhile htext
    omega

theorem length_of_hasMember {first : Bool} {text more : List UInt8}
    (h : hasMember first text = .ok true (0x22 :: more)) : more.length < text.length := by
  rcases hasMember_ok h with
    ⟨h, -⟩ | ⟨-, -, more', htext, h⟩ | ⟨-, -, later, more', htext, hlater, h⟩
  · cases h
  · cases h
    exact length_of_dropWhile htext
  · cases h
    have hcomma := length_of_dropWhile htext
    have hquote := length_of_dropWhile hlater
    omega

theorem length_of_mem_itemsFrom {fuel : Nat} : ∀ {index : Nat} {text : List UInt8}
    {texts : List (List UInt8)}, itemsFrom (fun _ => passed) fuel index text = .ok texts left →
      ∀ t ∈ texts, t.length ≤ text.length := by
  induction fuel with
  | zero => intro index text texts h; cases h
  | succ fuel ih =>
    intro index text texts h t ht
    rcases itemsFrom_ok h with ⟨-, rfl⟩ | ⟨start, t', after, later, hnext, hpassed, hlater, rfl⟩
    · cases ht
    · obtain ⟨rfl, hskip⟩ := passed_ok hpassed
      have hstart := length_of_hasItem hnext
      rcases List.mem_cons.mp ht with rfl | ht
      · exact hstart
      · have hafter := shrinks_skipValue _ _ _ hskip
        have hmore := ih hlater t ht
        omega

theorem length_of_mem_memberTexts {fuel : Nat} : ∀ {first : Bool} {text : List UInt8}
    {members : List (String × List UInt8)}, memberTexts fuel first text = .ok members left →
      ∀ m ∈ members, m.2.length ≤ text.length := by
  induction fuel with
  | zero => intro first text members h; cases h
  | succ fuel ih =>
    intro first text members h m hm
    rcases memberTexts_ok h with ⟨-, rfl⟩ |
      ⟨more, name, named, value, after, later, hmember, hname, hcolon, hskip, hlater, rfl⟩
    · cases hm
    · have hquote := length_of_hasMember hmember
      have hvalue := length_of_name hname hcolon
      rcases List.mem_cons.mp hm with rfl | hm
      · exact Nat.le_of_lt (Nat.lt_trans hvalue hquote)
      · have hafter := shrinks_skipValue _ _ _ hskip
        have hmore := ih hlater m hm
        omega

/-- One level: what an object and what a list have to be like. -/
theorem distinctNames_succ_iff {levels : Nat} {text : List UInt8} :
    distinctNames (levels + 1) text = true ↔
      (∀ {more members left}, text.dropWhile isSpace = 0x7B :: more →
        memberTexts (more.length + 1) true more = .ok members left →
          (members.map Prod.fst).Nodup ∧ ∀ m ∈ members, distinctNames levels m.2 = true) ∧
      ∀ {more texts left}, text.dropWhile isSpace = 0x5B :: more →
        itemsFrom (fun _ => passed) (more.length + 1) 0 more = .ok texts left →
          ∀ t ∈ texts, distinctNames levels t = true := by
  rw [distinctNames]
  constructor
  · intro h
    constructor
    · intro more members left hstart hmembers
      simp only [hstart, hmembers, Bool.and_eq_true, decide_eq_true_eq] at h
      exact ⟨h.1, List.all_eq_true.mp h.2⟩
    · intro more texts left hstart htexts
      simp only [hstart, htexts] at h
      exact List.all_eq_true.mp h
  · rintro ⟨hobject, hlist⟩
    split
    · rename_i more hstart
      split
      · rename_i members left hmembers
        obtain ⟨hnodup, hinside⟩ := hobject hstart hmembers
        rw [Bool.and_eq_true, decide_eq_true_eq]
        exact ⟨hnodup, List.all_eq_true.mpr hinside⟩
      · rfl
    · rename_i more hstart
      split
      · rename_i texts left htexts
        exact List.all_eq_true.mpr (hlist hstart htexts)
      · rfl
    · rfl

theorem distinctNames_of_length_le {enough levels : Nat} : ∀ {text : List UInt8},
    text.length ≤ enough → distinctNames enough text = true →
      distinctNames levels text = true := by
  induction levels generalizing enough with
  | zero => intro text _ _; rfl
  | succ levels ih =>
    intro text henough h
    cases enough with
    | zero =>
      rw [List.eq_nil_of_length_eq_zero (Nat.le_zero.mp henough)]
      rfl
    | succ enough =>
      obtain ⟨hobject, hlist⟩ := distinctNames_succ_iff.mp h
      refine distinctNames_succ_iff.mpr ⟨?_, ?_⟩
      · intro more members left hstart hmembers
        obtain ⟨hnodup, hinside⟩ := hobject hstart hmembers
        refine ⟨hnodup, ?_⟩
        intro m hm
        have hbrace := length_of_dropWhile hstart
        have hshort := length_of_mem_memberTexts hmembers m hm
        exact ih (by omega) (hinside m hm)
      · intro more texts left hstart htexts t ht
        have hbracket := length_of_dropWhile hstart
        have hshort := length_of_mem_itemsFrom htexts t ht
        exact ih (by omega) (hlist hstart htexts t ht)

/-- No object anywhere in the text has two members of the same name.  Every level of nesting takes a
byte, so the bytes of the text are levels enough. -/
def NoRepeats (text : List UInt8) : Prop := distinctNames text.length text = true

instance (text : List UInt8) : Decidable (NoRepeats text) :=
  inferInstanceAs (Decidable (distinctNames text.length text = true))

/-- **No bound on the levels is felt.** -/
theorem noRepeats_iff {text : List UInt8} :
    NoRepeats text ↔ ∀ levels, distinctNames levels text = true :=
  ⟨fun h _ => distinctNames_of_length_le (Nat.le_refl _) h, fun h => h _⟩

example : NoRepeats (bytesOf "\x7b\"a\":[\x7b\"b\":\"\x7b\"\x7d],\"b\":1\x7d") := by decide +kernel

example : ¬ NoRepeats (bytesOf "[\x7b\"a\":1,\"\\u0061\":2\x7d]") := by decide +kernel

end HealthBoard.Json.Reader
