/-
What is sent comes back as it was.

A value of a shape is read back from its text: scalars one by one, a list item by item, and a record
member by member, which `record_readsBack` has done already.  An item of a list has to be told from
the end of the list, and is, since no value begins with a closing bracket.  The proof follows the
shape (`Shape.readsBack`).  Three things are asked of it: a name stands for one field only, the
levels of nesting are fewer than a reader allows, and each number with a fraction is one that
survives being printed and parsed.

From that follows the same of the types of the wire, and that a text that is accepted is as good as
the text that is written for what was accepted.
-/
import HealthBoard.Gateway.Envelope
import HealthBoard.Health.Level
import HealthBoard.Proofs.Json.Copied
import HealthBoard.Proofs.Json.Number

namespace HealthBoard

namespace Json

open Reader

/-! ### Lists -/

/-- The text begins with a byte that is no space and closes no list. -/
def StartsValue (text : List UInt8) : Prop :=
  ∃ b more, text = b :: more ∧ isSpace b = false ∧ b ≠ 0x5D

/-- There is no space in front of a value. -/
theorem StartsValue.dropWhile {text rest : List UInt8} (h : StartsValue text) :
    (text ++ rest).dropWhile isSpace = text ++ rest := by
  obtain ⟨b, more, rfl, hspace, -⟩ := h
  exact dropWhile_isSpace_cons hspace

namespace Reader

variable {rest : List UInt8}

theorem hasItem_end (first : Bool) {text : List UInt8}
    (h : text.dropWhile isSpace = 0x5D :: rest) :
    hasItem first text = .ok false (0x5D :: rest) := by
  rw [hasItem, bind_of_ok (peekToken_of_dropWhile h)]
  rfl

theorem hasItem_first {text value : List UInt8} (hstart : StartsValue value)
    (h : text.dropWhile isSpace = value ++ rest) :
    hasItem true text = .ok true (value ++ rest) := by
  obtain ⟨b, more, rfl, hspace, hclose⟩ := hstart
  rw [hasItem, bind_of_ok (peekToken_of_dropWhile h)]
  simp only [if_neg (by simpa using hclose : ¬ (b == 0x5D) = true)]
  rfl

theorem hasItem_further {text later value : List UInt8} (hstart : StartsValue value)
    (h : text.dropWhile isSpace = 0x2C :: later)
    (hlater : later.dropWhile isSpace = value ++ rest) :
    hasItem false text = .ok true (value ++ rest) := by
  obtain ⟨b, more, rfl, hspace, hclose⟩ := hstart
  have hskip : skip (0x2C :: later) = .ok () later := rfl
  rw [hasItem, bind_of_ok (peekToken_of_dropWhile h)]
  simp only [if_neg (by decide : ¬ ((0x2C : UInt8) == 0x5D) = true)]
  show (skip >>= fun _ => peekToken >>= _) (0x2C :: later) = _
  rw [bind_of_ok hskip, bind_of_ok (peekToken_of_dropWhile hlater)]
  simp [pure, EStateM.pure]

theorem endList_cons : endList (0x5D :: rest) = .ok () rest := by
  rw [endList, bind_of_ok (peekToken_cons rfl)]
  rfl

end Reader

/-- The text of items, the first of them or further ones. -/
def listText (first : Bool) (items : List Json) : List UInt8 :=
  Text.bytes (if first then itemsChars items else restItemsChars items)

theorem endsValue_listText (items : List Json) (rest : List UInt8) :
    EndsValue (listText false items ++ 0x5D :: rest) := by
  intro b hb
  cases items with
  | nil =>
      cases Option.some.inj hb
      exact .inr (.inl rfl)
  | cons item items =>
      cases Option.some.inj hb
      exact .inl rfl

theorem hasItem_listText {item : Json} {items : List Json} {rest : List UInt8} (first : Bool)
    (h : StartsValue (Text.bytes item.chars)) :
    hasItem first (listText first (item :: items) ++ rest)
      = .ok true (Text.bytes item.chars ++ (listText false items ++ rest)) := by
  cases first with
  | true =>
      have htext : listText true (item :: items)
          = Text.bytes item.chars ++ listText false items := by
        simp [listText, itemsChars]
      rw [htext, List.append_assoc, hasItem_first h h.dropWhile]
  | false =>
      have hcomma : String.utf8EncodeChar ',' = [0x2C] := rfl
      have htext : listText false (item :: items)
          = 0x2C :: (Text.bytes item.chars ++ listText false items) := by
        simp [listText, restItemsChars, Text.bytes_cons, hcomma]
      rw [htext, List.cons_append, List.append_assoc, hasItem_further h rfl h.dropWhile]

section Items

variable {α : Type} {item : Nat → Reader α} {write : α → Json}

theorem itemsFrom_listText {rest : List UInt8} : ∀ {values : List α} {fuel index : Nat},
    (∀ v ∈ values, StartsValue (Text.bytes (write v).chars)) →
    (∀ v ∈ values, ∀ i rest, EndsValue rest →
      item i (Text.bytes (write v).chars ++ rest) = .ok v rest) →
    values.length < fuel →
    itemsFrom item fuel index (listText (index == 0) (values.map write) ++ 0x5D :: rest)
      = .ok values (0x5D :: rest) := by
  intro values
  induction values with
  | nil =>
      intro fuel index _ _ hfuel
      obtain ⟨fuel, rfl⟩ := Nat.exists_eq_add_of_lt hfuel
      have htext : listText (index == 0) [] = [] := by cases index <;> rfl
      rw [List.map_nil, htext, List.nil_append, itemsFrom, bind_of_ok (hasItem_end _ rfl)]
      rfl
  | cons v values ih =>
      intro fuel index hstarts hread hfuel
      obtain ⟨fuel, rfl⟩ : ∃ f, fuel = f + 1 := ⟨fuel - 1, by omega⟩
      have hitem := hread v List.mem_cons_self index _
        (endsValue_listText (values.map write) rest)
      have hmore : itemsFrom item fuel (index + 1)
          (listText false (values.map write) ++ 0x5D :: rest) = .ok values (0x5D :: rest) :=
        ih (fun w hw => hstarts w (List.mem_cons_of_mem v hw))
          (fun w hw => hread w (List.mem_cons_of_mem v hw)) (Nat.lt_of_succ_lt_succ hfuel)
      rw [List.map_cons, itemsFrom,
        bind_of_ok (hasItem_listText _ (hstarts v List.mem_cons_self)), if_pos rfl,
        bind_of_ok hitem, bind_of_ok hmore]
      rfl

end Items

theorem length_le_length_listText (items : List Json) :
    items.length ≤ (listText true items).length + 1 := by
  have hfurther : ∀ items : List Json, items.length ≤ (listText false items).length := by
    intro items
    induction items with
    | nil => exact Nat.zero_le _
    | cons item items ih =>
        have hcomma : String.utf8EncodeChar ',' = [0x2C] := rfl
        have htext : listText false (item :: items)
            = 0x2C :: (Text.bytes item.chars ++ listText false items) := by
          simp [listText, restItemsChars, Text.bytes_cons, hcomma]
        rw [htext, List.length_cons, List.length_cons, List.length_append]
        omega
  cases items with
  | nil => exact Nat.zero_le _
  | cons item items =>
      have htext : listText true (item :: items)
          = Text.bytes item.chars ++ listText false items := by
        simp [listText, itemsChars]
      have hitems := hfurther items
      rw [htext, List.length_cons, List.length_append]
      omega

/-- **A list is read back if its items are.** -/
theorem list_readsBack {s : Shape} {depth : Nat} {vs : List s.Value}
    (hstarts : ∀ v ∈ vs, StartsValue (Text.bytes (s.toJson v).chars))
    (hread : ∀ v ∈ vs, s.ReadsBack (depth + 1) v) : (Shape.list s).ReadsBack (depth + 2) vs := by
  intro rest _
  have hopen : Text.bytes ((Shape.list s).toJson vs).chars ++ rest
      = 0x5B :: (listText true (vs.map s.toJson) ++ 0x5D :: rest) := by
    show Text.bytes ('[' :: (itemsChars (vs.map s.toJson) ++ [']'])) ++ rest = _
    have hopen : String.utf8EncodeChar '[' = [0x5B] := rfl
    have hclose : String.utf8EncodeChar ']' = [0x5D] := rfl
    simp [listText, Text.bytes_cons, hopen, hclose]
  have hitems : ∀ v ∈ vs, ∀ i rest, EndsValue rest →
      within (.index i) (s.read (depth + 1)) (Text.bytes (s.toJson v).chars ++ rest)
        = .ok v rest := by
    intro v hv i rest hrest
    rw [within, hread v hv rest hrest]
  have hfuel : vs.length < (listText true (vs.map s.toJson) ++ 0x5D :: rest).length + 1 := by
    have hlength := length_le_length_listText (vs.map s.toJson)
    rw [List.length_map] at hlength
    rw [List.length_append, List.length_cons]
    omega
  have hall : itemsFrom (fun i => within (.index i) (s.read (depth + 1)))
      ((listText true (vs.map s.toJson) ++ 0x5D :: rest).length + 1) 0
      (listText true (vs.map s.toJson) ++ 0x5D :: rest) = .ok vs (0x5D :: rest) :=
    itemsFrom_listText hstarts hitems hfuel
  have hdescend : ∀ text, descend (depth + 1) text = .ok () text := fun _ => rfl
  have hskip : ∀ text, skip (0x5B :: text) = .ok () text := fun _ => rfl
  rw [hopen, Shape.read, Reader.list, bind_of_ok (valueStart_cons rfl), if_pos (by rfl)]
  have hdepth : depth + 2 - 1 = depth + 1 := rfl
  rw [hdepth, bind_of_ok (hdescend _), bind_of_ok (hskip _), items, bind_of_ok hall,
    bind_of_ok endList_cons]
  rfl

/-- A list that could be `null` is never written as `null`. -/
theorem listOrNull_readsBack {s : Shape} {depth : Nat} {vs : List s.Value}
    (h : (Shape.list s).ReadsBack depth vs) : (Shape.listOrNull s).ReadsBack depth vs := by
  intro rest hrest
  have hlist := h rest hrest
  have hopen : String.utf8EncodeChar '[' = [0x5B] := rfl
  have htext : ∀ js : List Json, Text.bytes (Json.arr js).chars
      = 0x5B :: Text.bytes (itemsChars js ++ [']']) := by
    intro js
    rw [Json.chars, Text.bytes_cons, hopen]
    rfl
  have hjson : (Shape.listOrNull s).toJson vs = .arr (vs.map s.toJson) := rfl
  have hjson' : (Shape.list s).toJson vs = .arr (vs.map s.toJson) := rfl
  rw [hjson', htext, List.cons_append] at hlist
  rw [hjson, htext, List.cons_append, Shape.read, orNull, bind_of_ok (peekToken_cons rfl)]
  exact hlist

/-! ### Shapes -/

mutual

/-- No value of the shape could be taken for another one: the fields of every record have names of
their own, and nothing may be `null` or anything at all. -/
def Shape.IsPlain : Shape → Prop
  | .integer | .number | .boolean | .text => True
  | .any | .optional _ => False
  | .list s | .listOrNull s => s.IsPlain
  | .record _ fs => fs.names.Nodup ∧ fs.ArePlain

def Fields.ArePlain : Fields → Prop
  | .done => True
  | .field _ _ s rest => s.IsPlain ∧ rest.ArePlain

end

mutual

/-- How deeply the values of the shape are nested. -/
def Shape.height : Shape → Nat
  | .integer | .number | .boolean | .text | .any => 0
  | .optional s => s.height
  | .list s | .listOrNull s => s.height + 1
  | .record _ fs => fs.height + 1

def Fields.height : Fields → Nat
  | .done => 0
  | .field _ _ s rest => max s.height rest.height

end

mutual

/-- Every number of the value survives. -/
def Shape.Survives : (s : Shape) → s.Value → Prop
  | .number, x => NumberSurvives x
  | .list s, vs => ∀ v ∈ vs, s.Survives v
  | .listOrNull s, vs => ∀ v ∈ vs, s.Survives v
  | .record _ fs, vs => fs.Survive vs
  | _, _ => True

def Fields.Survive : (fs : Fields) → fs.Values → Prop
  | .done, _ => True
  | .field _ _ s rest, (v, vs) => s.Survives v ∧ rest.Survive vs

end

theorem boolean_readsBack (depth : Nat) (b : Bool) : Shape.boolean.ReadsBack depth b := by
  intro rest _
  cases b <;> rfl

theorem startsValue_of_isDigit {b : UInt8} {more : List UInt8} (h : isDigit b = true) :
    StartsValue (b :: more) := by
  refine ⟨b, more, rfl, isSpace_of_isDigit h, ?_⟩
  rintro rfl
  cases h

theorem startsValue_minus (more : List UInt8) : StartsValue (0x2D :: more) :=
  ⟨0x2D, more, rfl, rfl, by decide⟩

theorem startsValue_ofInt (n : Int) : StartsValue (Text.bytes (Decimal.ofInt n)) := by
  unfold Decimal.ofInt
  split
  · exact startsValue_minus _
  · obtain ⟨c, cs, hcs⟩ := List.exists_cons_of_ne_nil (Decimal.digits_ne_nil n.natAbs)
    obtain ⟨d, hd, rfl⟩ := Decimal.mem_digits (n := n.natAbs) (c := c) (by simp [hcs])
    obtain ⟨b, hbytes, hb, -⟩ := utf8EncodeChar_digitChar hd
    rw [hcs, Text.bytes_cons, hbytes]
    exact startsValue_of_isDigit hb

/-- No value begins with a space or with what closes a list. -/
theorem Shape.starts_value {s : Shape} {v : s.Value} (hplain : s.IsPlain) (h : s.Survives v) :
    StartsValue (Text.bytes (s.toJson v).chars) := by
  cases s with
  | integer => exact startsValue_ofInt v.toInt
  | number =>
      obtain ⟨j, -, ⟨more, htext, -⟩ | hnumber⟩ := NumberSurvives.exists_number h
      · show StartsValue (Text.bytes (floatChars v))
        rw [htext]
        exact startsValue_minus more
      · obtain ⟨b, more, htext, hb, -⟩ := number_ok hnumber
        show StartsValue (Text.bytes (floatChars v))
        rw [htext]
        exact startsValue_of_isDigit hb
  | boolean =>
      cases v
      · exact ⟨0x66, _, rfl, rfl, by decide⟩
      · exact ⟨0x74, _, rfl, rfl, by decide⟩
  | text => exact ⟨0x22, _, rfl, rfl, by decide⟩
  | list => exact ⟨0x5B, _, rfl, rfl, by decide⟩
  | listOrNull => exact ⟨0x5B, _, rfl, rfl, by decide⟩
  | record => exact ⟨0x7B, _, rfl, rfl, by decide⟩
  | any => exact hplain.elim
  | optional => exact hplain.elim

mutual

/-- **A value of a plain shape is read back**, if the levels of nesting are enough. -/
theorem Shape.readsBack : ∀ (s : Shape) (depth : Nat) (v : s.Value), s.IsPlain →
    s.height < depth → s.Survives v → s.ReadsBack depth v
  | .integer, depth, n, _, _, _ => integer_readsBack depth n
  | .number, depth, _, _, _, h => h.readsBack depth
  | .boolean, depth, b, _, _, _ => boolean_readsBack depth b
  | .text, depth, t, _, _, _ => text_readsBack depth t
  | .list s, depth + 2, _, hplain, hheight, h =>
      list_readsBack (fun v hv => Shape.starts_value hplain (h v hv))
        fun v hv => s.readsBack (depth + 1) v hplain (Nat.lt_of_succ_lt_succ hheight) (h v hv)
  | .listOrNull s, depth + 2, _, hplain, hheight, h =>
      listOrNull_readsBack (list_readsBack (fun v hv => Shape.starts_value hplain (h v hv))
        fun v hv => s.readsBack (depth + 1) v hplain (Nat.lt_of_succ_lt_succ hheight) (h v hv))
  | .record _ fs, depth + 2, vs, hplain, hheight, h =>
      record_readsBack hplain.1
        (fs.readsBack (depth + 1) vs hplain.2 (Nat.lt_of_succ_lt_succ hheight) h)

theorem Fields.readsBack : ∀ (fs : Fields) (depth : Nat) (vs : fs.Values), fs.ArePlain →
    fs.height < depth → fs.Survive vs → fs.ReadsBack depth vs
  | .done, _, _, _, _, _ => trivial
  | .field _ _ s rest, depth, (v, vs), hplain, hheight, h =>
      ⟨s.readsBack depth v hplain.1 (Nat.lt_of_le_of_lt (Nat.le_max_left _ _) hheight) h.1,
        rest.readsBack depth vs hplain.2 (Nat.lt_of_le_of_lt (Nat.le_max_right _ _) hheight) h.2⟩

end

end Json

/-! ### Types of the wire -/

/-- What is sent for a value is decoded as the value, and a text that is decoded can be replaced by
what is sent for the value decoded; `Sound` says of which values. -/
structure RoundTrips (α : Type) [Wire α] (Sound : α → Prop) : Prop where
  decode_encode : ∀ a, Sound a →
    (Wire.decode (bytesOf (Wire.encode a)) : Except Json.Complaint α) = .ok a
  normal : ∀ text (a : α), Wire.decode text = .ok a → Sound a →
    (Wire.decode (bytesOf (Wire.encode a)) : Except Json.Complaint α) = Wire.decode text

/-- A type whose shape is plain. -/
theorem roundTrips_of_isPlain {α : Type} [Wire α] {Sound : α → Prop}
    (hplain : (Wire.shape α).IsPlain) (hheight : (Wire.shape α).height < Json.Reader.greatestDepth)
    (hsound : ∀ a, Sound a → (Wire.shape α).Survives (Wire.give a)) : RoundTrips α Sound := by
  have hback : ∀ a, Sound a →
      (Wire.decode (bytesOf (Wire.encode a)) : Except Json.Complaint α) = .ok a := by
    intro a ha
    exact Wire.decode_encode (Json.Shape.readsBack _ _ _ hplain hheight (hsound a ha))
  refine ⟨hback, ?_⟩
  intro text a htext ha
  rw [htext]
  exact hback a ha

open Json (NumberSurvives)

/-- Whole numbers and texts are plain, and there is nothing about them to survive. -/
theorem Json.Fields.AllScalar.arePlain : ∀ {fs : Json.Fields}, fs.AllScalar → fs.ArePlain
  | .done, _ => trivial
  | .field _ _ .integer _, h | .field _ _ .text _, h => ⟨trivial, h.2.arePlain⟩

theorem Json.Fields.AllScalar.survive : ∀ {fs : Json.Fields} {vs : fs.Values}, fs.AllScalar →
    fs.Survive vs
  | .done, _, _ => trivial
  | .field _ _ .integer _, _, h | .field _ _ .text _, _, h => ⟨trivial, h.2.survive⟩

theorem HourlyRecord.isPlain : HourlyRecord.shape.IsPlain :=
  ⟨by decide, trivial, trivial, trivial, trivial, trivial, trivial, trivial, trivial, trivial⟩

theorem HourlyRecord.survives {r : HourlyRecord} (h : NumberSurvives r.successRate) :
    HourlyRecord.shape.Survives (Wire.give r) :=
  ⟨trivial, trivial, trivial, trivial, trivial, trivial, trivial, h, trivial⟩

theorem HourlyRecord.survives_list {records : List HourlyRecord}
    (h : ∀ r ∈ records, NumberSurvives r.successRate) :
    (Json.Shape.list HourlyRecord.shape).Survives (records.map Wire.give) := by
  intro v hv
  obtain ⟨r, hr, rfl⟩ := List.mem_map.mp hv
  exact survives (h r hr)

/-- The fields of a record. -/
def Json.Shape.fields : Json.Shape → Json.Fields
  | .record _ fs => fs
  | _ => .done

theorem FingerprintUser.allScalar : FingerprintUser.shape.fields.AllScalar :=
  ⟨trivial, trivial, trivial, trivial, trivial, trivial, trivial, trivial, trivial, trivial,
    trivial, trivial, trivial⟩

theorem DuplicateVisitor.allScalar : DuplicateVisitor.shape.fields.AllScalar :=
  ⟨trivial, trivial, trivial, trivial, trivial⟩

/-- Pages of what has no numbers but whole ones. -/
theorem Page.roundTrips {α : Type} [Wire α] (hplain : (Wire.shape α).IsPlain)
    (hheight : (Page.shape (Wire.shape α)).height < Json.Reader.greatestDepth)
    (hsurvives : ∀ a : α, (Wire.shape α).Survives (Wire.give a)) :
    RoundTrips (Page α) fun _ => True := by
  have hnames : ["page", "page_size", "total", "items"].Nodup := by decide
  refine roundTrips_of_isPlain ?_ hheight ?_
  · exact ⟨hnames, trivial, trivial, trivial, hplain, trivial⟩
  · intro p _
    refine ⟨trivial, trivial, trivial, ?_, trivial⟩
    intro v hv
    obtain ⟨a, -, rfl⟩ := List.mem_map.mp hv
    exact hsurvives a

/-- **What is sent for a value of the wire is decoded as the value.** -/
theorem wire_roundTrips :
    RoundTrips HourlyRecord (fun r => NumberSurvives r.successRate) ∧
    RoundTrips PublicHourlyPayload (fun p => ∀ r ∈ p.rows, NumberSurvives r.successRate) ∧
    RoundTrips (Page FingerprintUser) (fun _ => True) ∧
    RoundTrips (Page DuplicateVisitor) (fun _ => True) ∧
    RoundTrips (Envelope (List HourlyRecord))
      (fun e => ∀ r ∈ e.data, NumberSurvives r.successRate) ∧
    RoundTrips RecordRequest (fun _ => True) ∧
    RoundTrips ThresholdSet (fun t => ∀ cutOff ∈ t.cutOffs, NumberSurvives cutOff) := by
  refine ⟨?_, ?_, ?_, ?_, ?_, ?_, ?_⟩
  · exact roundTrips_of_isPlain HourlyRecord.isPlain (by decide) fun _ => HourlyRecord.survives
  · refine roundTrips_of_isPlain ?_ (by decide) ?_
    · exact ⟨by decide, trivial, trivial, HourlyRecord.isPlain, trivial⟩
    · intro p hp
      exact ⟨trivial, trivial, HourlyRecord.survives_list hp, trivial⟩
  · exact Page.roundTrips ⟨by decide, FingerprintUser.allScalar.arePlain⟩ (by decide)
      fun _ => FingerprintUser.allScalar.survive
  · exact Page.roundTrips ⟨by decide, DuplicateVisitor.allScalar.arePlain⟩ (by decide)
      fun _ => DuplicateVisitor.allScalar.survive
  · refine roundTrips_of_isPlain ?_ (by decide) ?_
    · exact ⟨by decide, trivial, trivial, HourlyRecord.isPlain, trivial⟩
    · intro e he
      exact ⟨trivial, trivial, HourlyRecord.survives_list he, trivial⟩
  · refine roundTrips_of_isPlain ?_ (by decide) ?_
    · exact ⟨by decide, trivial, trivial⟩
    · intro r _
      exact ⟨trivial, trivial⟩
  · refine roundTrips_of_isPlain ?_ (by decide) ?_
    · refine ⟨by decide, trivial, trivial, trivial, trivial, ⟨by decide, ?_⟩, trivial⟩
      exact ⟨trivial, trivial, trivial, trivial, trivial, trivial⟩
    · intro t ht
      obtain ⟨he, hg, hw, hp, -⟩ : NumberSurvives t.excellent ∧ NumberSurvives t.good ∧
          NumberSurvives t.warning ∧ NumberSurvives t.poor ∧ True := by
        simpa [ThresholdSet.cutOffs] using ht
      exact ⟨he, hg, hw, hp, ⟨trivial, trivial, trivial, trivial, trivial, trivial⟩, trivial⟩

/-- Records with odd numbers and odd names, sent and decoded. -/
theorem wire_roundTrips_odd :
    let records : List HourlyRecord :=
      [⟨"a \"quoted\" näme\n", -9223372036854775808, 9223372036854775807, 0, -1, 1, 7, -0.0⟩,
        ⟨"", 3600, 1, 3, 0, 0, 0, 0.3333333333333333⟩]
    let envelope : Envelope (List HourlyRecord) := ⟨true, "\x7f\u2028", records⟩
    (Wire.decode (bytesOf (Wire.encode envelope)) :
        Except Json.Complaint (Envelope (List HourlyRecord))) = .ok envelope ∧
      (Wire.decode (bytesOf (Wire.encode ThresholdSet.forOperators)) :
        Except Json.Complaint ThresholdSet) = .ok ThresholdSet.forOperators := by
  have hrates : ∀ rate ∈ [-0.0, 0.3333333333333333], NumberSurvives rate := by decide +kernel
  have hcutOffs : ∀ cutOff ∈ ThresholdSet.forOperators.cutOffs, NumberSurvives cutOff := by
    decide +kernel
  refine ⟨wire_roundTrips.2.2.2.2.1.decode_encode _ ?_,
    wire_roundTrips.2.2.2.2.2.2.decode_encode _ hcutOffs⟩
  intro r hr
  rcases List.mem_cons.mp hr with rfl | hr
  · exact hrates _ List.mem_cons_self
  · cases List.mem_singleton.mp hr
    exact hrates _ (List.mem_cons_of_mem _ List.mem_cons_self)

end HealthBoard
