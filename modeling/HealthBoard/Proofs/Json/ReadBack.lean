/-
What is written for a value is read as the value.

A reader of a shape stands before the text of a value and has to end behind it, whatever follows;
only a comma or a closing bracket can follow.  `ReadsBack` says so of one value, and is carried from
the parts of a value to the whole.  A record is read member by member: after some of them, the slots
of their fields are filled and the others are not, and the next name is that of the first empty
slot (`foldMembersFrom_members`).  That the names are different is what keeps a member from going
anywhere else.
-/
import HealthBoard.Proofs.Json.Text

namespace HealthBoard

namespace Json

namespace Reader

variable {α β : Type} {rest : List UInt8}

/-! ### Steps of reading -/

theorem bind_of_ok {r : Reader α} {f : α → Reader β} {text : List UInt8} {a : α}
    (h : r text = .ok a rest) : (r >>= f) text = f a rest := by
  simp only [bind, EStateM.bind, h]

/-- Steps that read something were taken one after the other. -/
theorem exists_of_bind_ok {r : Reader α} {f : α → Reader β} {text : List UInt8} {b : β}
    (h : (r >>= f) text = .ok b rest) : ∃ a left, r text = .ok a left ∧ f a left = .ok b rest := by
  cases hr : r text with
  | ok a left => exact ⟨a, left, rfl, by rwa [bind_of_ok hr] at h⟩
  | error c left => simp [bind, EStateM.bind, hr] at h

/-- A token that begins with no space is where the reader stands. -/
theorem peekToken_cons {b : UInt8} (h : isSpace b = false) :
    peekToken (b :: rest) = .ok (some b) (b :: rest) := by
  have hspace : skipSpace (b :: rest) = .ok () (b :: rest) := by
    rw [skipSpace, List.dropWhile_cons_of_neg (by simp [h])]
  rw [peekToken, bind_of_ok hspace]
  rfl

/-- A token with space in front of it. -/
theorem peekToken_of_dropWhile {text : List UInt8} {b : UInt8}
    (h : text.dropWhile isSpace = b :: rest) : peekToken text = .ok (some b) (b :: rest) := by
  show EStateM.Result.ok (text.dropWhile isSpace).head? (text.dropWhile isSpace) = _
  rw [h]
  rfl

theorem valueStart_of_dropWhile {text : List UInt8} {b : UInt8}
    (h : text.dropWhile isSpace = b :: rest) : valueStart text = .ok b (b :: rest) := by
  rw [valueStart, bind_of_ok (peekToken_of_dropWhile h)]
  rfl

theorem valueStart_cons {b : UInt8} (h : isSpace b = false) :
    valueStart (b :: rest) = .ok b (b :: rest) := by
  rw [valueStart, bind_of_ok (peekToken_cons h)]
  rfl

theorem colon_cons : colon (0x3A :: rest) = .ok () rest := by
  rw [colon, bind_of_ok (peekToken_cons rfl)]
  rfl

theorem hasMember_end (first : Bool) {text : List UInt8}
    (h : text.dropWhile isSpace = 0x7D :: rest) :
    hasMember first text = .ok false (0x7D :: rest) := by
  rw [hasMember, bind_of_ok (peekToken_of_dropWhile h)]
  rfl

theorem hasMember_first {text : List UInt8} (h : text.dropWhile isSpace = 0x22 :: rest) :
    hasMember true text = .ok true (0x22 :: rest) := by
  rw [hasMember, bind_of_ok (peekToken_of_dropWhile h)]
  rfl

theorem hasMember_further {text later : List UInt8} (h : text.dropWhile isSpace = 0x2C :: later)
    (hlater : later.dropWhile isSpace = 0x22 :: rest) :
    hasMember false text = .ok true (0x22 :: rest) := by
  have hskip : skip (0x2C :: later) = .ok () later := rfl
  rw [hasMember, bind_of_ok (peekToken_of_dropWhile h)]
  show (skip >>= fun _ => peekToken >>= _) (0x2C :: later) = _
  rw [bind_of_ok hskip, bind_of_ok (peekToken_of_dropWhile hlater)]
  rfl

theorem endObject_cons : endObject (0x7D :: rest) = .ok () rest := by
  rw [endObject, bind_of_ok (peekToken_cons rfl)]
  rfl

end Reader

open Reader

/-! ### Values -/

/-- What can follow a value: nothing, a comma or a closing bracket. -/
def EndsValue (rest : List UInt8) : Prop :=
  ∀ b ∈ rest.head?, b = 0x2C ∨ b = 0x5D ∨ b = 0x7D

/-- The text of the value is read as the value, `depth` more levels of nesting being allowed. -/
def Shape.ReadsBack (s : Shape) (depth : Nat) (v : s.Value) : Prop :=
  ∀ rest, EndsValue rest → s.read depth (Text.bytes (s.toJson v).chars ++ rest) = .ok v rest

theorem text_readsBack (depth : Nat) (v : String) : Shape.text.ReadsBack depth v := by
  intro rest _
  show Reader.text (0x22 :: (Text.bytes (v.toList.flatMap escapeChar ++ ['"']) ++ rest)) = _
  have hskip : ∀ text, skip (0x22 :: text) = .ok () text := fun _ => rfl
  rw [Reader.text, bind_of_ok (valueStart_cons rfl), if_pos (by decide), bind_of_ok (hskip _)]
  exact string_stringChars v

/-! ### Records -/

namespace Fields

/-- The names of the fields. -/
def names : Fields → List String
  | .done => []
  | .field name _ _ rest => name :: rest.names

/-- Every value is read back as the value of its field. -/
def ReadsBack (depth : Nat) : (fs : Fields) → fs.Values → Prop
  | .done, _ => True
  | .field _ _ s rest, (v, vs) => s.ReadsBack depth v ∧ rest.ReadsBack depth vs

/-- The slots when all members were met. -/
def filled : (fs : Fields) → fs.Values → fs.Slots
  | .done, _ => ()
  | .field _ _ _ rest, (v, vs) => (some v, rest.filled vs)

theorem complete_filled : ∀ (fs : Fields) (vs : fs.Values), fs.complete (fs.filled vs) = .ok vs
  | .done, _ => rfl
  | .field _ _ _ rest, (v, vs) => by
    rw [filled, complete, complete_filled rest vs]
    rfl

/-- The text of members, the first of them or further ones. -/
def textOf (first : Bool) (members : List (String × Json)) : List UInt8 :=
  Text.bytes (if first then membersChars members else restMembersChars members)

theorem hasMember_textOf (first : Bool) (name : String) (value : Json)
    (members : List (String × Json)) (rest : List UInt8) :
    hasMember first (textOf first ((name, value) :: members) ++ rest)
      = .ok true (0x22 :: (Text.bytes (name.toList.flatMap escapeChar ++ ['"'])
          ++ 0x3A :: (Text.bytes value.chars ++ (textOf false members ++ rest)))) := by
  have htext : Text.bytes (stringChars name ++ ':' :: (value.chars ++ restMembersChars members))
        ++ rest
      = 0x22 :: (Text.bytes (name.toList.flatMap escapeChar ++ ['"'])
          ++ 0x3A :: (Text.bytes value.chars ++ (textOf false members ++ rest))) := by
    have hcolon : String.utf8EncodeChar ':' = [0x3A] := rfl
    have hquote : String.utf8EncodeChar '"' = [0x22] := rfl
    simp [stringChars, textOf, Text.bytes_cons, hcolon, hquote]
  cases first with
  | true =>
    show hasMember true (Text.bytes (stringChars name ++ ':' :: (value.chars
      ++ restMembersChars members)) ++ rest) = _
    rw [htext, hasMember_first rfl]
  | false =>
    show hasMember false (0x2C :: (Text.bytes (stringChars name ++ ':' :: (value.chars
      ++ restMembersChars members)) ++ rest)) = _
    rw [htext, hasMember_further rfl rfl]

theorem endsValue_textOf (members : List (String × Json)) (rest : List UInt8) :
    EndsValue (textOf false members ++ 0x7D :: rest) := by
  intro b hb
  cases members with
  | nil =>
    cases Option.some.inj hb
    exact .inr (.inr rfl)
  | cons member members =>
    cases Option.some.inj hb
    exact .inl rfl

/-- A member whose field has an empty slot fills it. -/
theorem readMember_cons {name : String} {required : Bool} {s : Shape} {fs : Fields} {depth : Nat}
    {v : s.Value} {slots : fs.Slots} {rest : List UInt8} (hread : s.ReadsBack depth v)
    (hrest : EndsValue rest) :
    (field name required s fs).readMember name depth (none, slots)
        (0x3A :: (Text.bytes (s.toJson v).chars ++ rest))
      = .ok (.ok (some v, slots)) rest := by
  have hvalue : within (.key name) (s.read depth) (Text.bytes (s.toJson v).chars ++ rest)
      = .ok v rest := by
    rw [within, hread rest hrest]
  rw [readMember, if_pos (by simp), if_neg (by simp), bind_of_ok colon_cons, bind_of_ok hvalue]
  rfl

/--
The members are read into the slots of their fields.  The reader may hold more than these slots:
`put` is where they are in its state, and a member of one of these fields changes nothing else
there.
-/
theorem foldMembersFrom_members {σ : Type} {depth : Nat}
    {step : String → σ → Reader (Except Mismatch σ)} :
    ∀ (fs : Fields) (vs : fs.Values) (put : fs.Slots → σ) (first : Bool) (fuel : Nat)
      (rest : List UInt8), fs.ReadsBack depth vs → fs.names.Nodup →
      (∀ key ∈ fs.names, ∀ slots, step key (put slots)
        = (fs.readMember key depth slots >>= fun met => pure (met.map put))) →
      fs.count < fuel →
      foldMembersFrom step fuel first (put fs.unmet)
          (textOf first (fs.toMembers vs) ++ 0x7D :: rest)
        = .ok (.ok (put (fs.filled vs))) (0x7D :: rest)
  | .done, _, put, first, fuel + 1, rest, _, _, _, _ => by
    have htext : textOf first [] = [] := by cases first <;> rfl
    show foldMembersFrom step (fuel + 1) first (put ()) (textOf first [] ++ 0x7D :: rest) = _
    rw [htext, List.nil_append, foldMembersFrom, bind_of_ok (hasMember_end first rfl)]
    rfl
  | .field name required s fs, (v, vs), put, first, fuel + 1, rest, hread, hnames, hstep,
      hfuel => by
    obtain ⟨hname, hnames⟩ := List.nodup_cons.mp hnames
    have hmember : step name (put (none, fs.unmet))
          (0x3A :: (Text.bytes (s.toJson v).chars
            ++ (textOf false (fs.toMembers vs) ++ 0x7D :: rest)))
        = .ok (.ok (put (some v, fs.unmet)))
            (textOf false (fs.toMembers vs) ++ 0x7D :: rest) := by
      rw [hstep name List.mem_cons_self,
        bind_of_ok (readMember_cons hread.1 (endsValue_textOf _ _))]
      rfl
    have hinner : ∀ key ∈ fs.names, ∀ slots, step key (put (some v, slots))
        = (fs.readMember key depth slots >>=
            fun met => pure (met.map fun r => put (some v, r))) := by
      intro key hkey slots
      have hne : key ≠ name := fun heq => hname (heq ▸ hkey)
      rw [hstep key (List.mem_cons_of_mem _ hkey), readMember, if_neg (by simpa using hne),
        bind_assoc]
      congr 1
      funext met
      cases met <;> rfl
    show foldMembersFrom step (fuel + 1) first (put (none, fs.unmet))
      (textOf first ((name, s.toJson v) :: fs.toMembers vs) ++ 0x7D :: rest) = _
    rw [foldMembersFrom, bind_of_ok (hasMember_textOf first _ _ _ _)]
    have hskip : ∀ text, skip (0x22 :: text) = .ok () text := fun _ => rfl
    rw [if_pos rfl, bind_of_ok (hskip _), bind_of_ok (string_stringChars name),
      bind_of_ok hmember]
    exact foldMembersFrom_members fs vs (fun r => put (some v, r)) false fuel rest hread.2 hnames
      hinner (Nat.lt_of_succ_lt_succ hfuel)

theorem count_le_length_textOf : ∀ (fs : Fields) (vs : fs.Values) (first : Bool),
    fs.count ≤ (textOf first (fs.toMembers vs)).length
  | .done, _, _ => Nat.zero_le _
  | .field name _ s fs, (v, vs), first => by
    have hrest := count_le_length_textOf fs vs false
    have hshorter : (textOf false (fs.toMembers vs)).length + 1
        ≤ (textOf first ((name, s.toJson v) :: fs.toMembers vs)).length := by
      have hcolon : String.utf8EncodeChar ':' = [0x3A] := rfl
      cases first <;>
        simp [textOf, membersChars, restMembersChars, Text.bytes_cons, hcolon] <;> omega
    exact Nat.le_trans (Nat.succ_le_succ hrest) hshorter

end Fields

/-- A record whose fields have different names is read back if its values are. -/
theorem record_readsBack {name : String} {fs : Fields} {depth : Nat} {vs : fs.Values}
    (hnames : fs.names.Nodup) (hread : fs.ReadsBack (depth + 1) vs) :
    (Shape.record name fs).ReadsBack (depth + 2) vs := by
  intro rest _
  have hfold : foldMembers (fun key slots => fs.readMember key (depth + 1) slots) fs.unmet
      (Fields.textOf true (fs.toMembers vs) ++ 0x7D :: rest)
        = .ok (.ok (fs.filled vs)) (0x7D :: rest) := by
    have hstep : ∀ key ∈ fs.names, ∀ slots, fs.readMember key (depth + 1) slots
        = (fs.readMember key (depth + 1) slots >>= fun met => pure (met.map id)) := by
      intro key _ slots
      have hid : (fun met : Except Mismatch fs.Slots => (pure (met.map id) : Reader _)) = pure := by
        funext met
        cases met <;> rfl
      rw [hid, bind_pure]
    refine Fields.foldMembersFrom_members fs vs id true _ rest hread hnames hstep ?_
    have hcount := Fields.count_le_length_textOf fs vs true
    rw [List.length_append]
    omega
  have htext : Text.bytes ((Shape.record name fs).toJson vs).chars ++ rest
      = 0x7B :: (Fields.textOf true (fs.toMembers vs) ++ 0x7D :: rest) := by
    show Text.bytes ('\x7b' :: (membersChars (fs.toMembers vs) ++ ['\x7d'])) ++ rest = _
    have hopen : String.utf8EncodeChar '\x7b' = [0x7B] := rfl
    have hclose : String.utf8EncodeChar '\x7d' = [0x7D] := rfl
    simp [Fields.textOf, Text.bytes_cons, hopen, hclose]
  have hdescend : ∀ text, descend (depth + 1) text = .ok () text := fun _ => rfl
  have hskip : ∀ text, skip (0x7B :: text) = .ok () text := fun _ => rfl
  have hdepth : depth + 2 - 1 = depth + 1 := rfl
  rw [htext, Shape.read, bind_of_ok (valueStart_cons rfl), if_neg (by decide), if_pos (by decide),
    hdepth, bind_of_ok (hdescend _), bind_of_ok (hskip _), closing, bind_of_ok hfold]
  simp only [Fields.complete_filled]
  exact bind_of_ok endObject_cons

theorem Shape.ReadsBack.decode {s : Shape} {v : s.Value} (h : s.ReadsBack greatestDepth v) :
    s.decode (Text.bytes (s.toJson v).chars) = .ok v := by
  have hread := h [] (fun b hb => by cases hb)
  rw [List.append_nil] at hread
  rw [Shape.decode, Reader.run, bind_of_ok hread]
  rfl

end Json

/-- **A value that is read back is decoded from what is sent for it.** -/
theorem Wire.decode_encode {α : Type} [Wire α] {a : α}
    (h : (Wire.shape α).ReadsBack Json.Reader.greatestDepth (Wire.give a)) :
    (Wire.decode (bytesOf (Wire.encode a)) : Except Json.Complaint α) = .ok a := by
  have htext : bytesOf (Wire.encode a) = Text.bytes (Wire.toJson a).chars := by
    rw [bytesOf_eq, Wire.encode, Json.render, String.toList_ofList]
  rw [Wire.decode, htext, Wire.toJson, h.decode]
  exact congrArg Except.ok (Wire.take_give a)

end HealthBoard
