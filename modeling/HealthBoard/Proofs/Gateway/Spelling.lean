/-
One value, many texts.

Who sends a record need not know how it is written here.  Members come in any order, with others
among them that nobody asked for; a default need not be sent; and a record may come as the list of
its values.  For every type of the wire these are only spellings: where one is accepted, so are the
others, and all are decoded as the same value (`decode_spellings`).

Of a page, the items may be left out, or be `null`, or be an empty list.  All three are the default,
so this is a case of the rest.
-/
import HealthBoard.Gateway.Envelope
import HealthBoard.Proofs.Except
import HealthBoard.Proofs.Json.Respelled

namespace HealthBoard

open Json Json.Reader

/-- The space around a list or an object, and before its closing bracket. -/
structure Spacing where
  front : List UInt8
  inner : List UInt8
  back : List UInt8
  front_spaces : IsSpaces front
  inner_spaces : IsSpaces inner
  back_spaces : IsSpaces back

namespace Spacing

/-- No space at all. -/
def none : Spacing := ⟨[], [], [], isSpaces_nil, isSpaces_nil, isSpaces_nil⟩

def object (w : Spacing) (members : List Member) : List UInt8 :=
  w.front ++ (braced w.inner members ++ w.back)

def list (w : Spacing) (items : List Item) : List UInt8 :=
  w.front ++ (bracketed w.inner items ++ w.back)

end Spacing

/-- What is accepted for the type is accepted in every spelling, for the same value. -/
structure DecodesAlike (α : Type) [Wire α] : Prop where
  object : ∀ {w w' : Spacing} {members members' : List Member} {a : α},
    (∀ m ∈ members, m.IsMember) → (Wire.shape α).fields.Respelled members members' →
      Wire.decode (w.object members) = .ok a → Wire.decode (w'.object members') = .ok a
  list : ∀ {w w' : Spacing} {members : List Member} {items : List Item} {a : α},
    (∀ m ∈ members, m.IsMember) → (∀ i ∈ items, i.IsItem) →
      (Wire.shape α).fields.Restated innerDepth members items →
        Wire.decode (w.object members) = .ok a → Wire.decode (w'.list items) = .ok a

section Records

variable {name : String} {fs : Fields} {w w' : Spacing} {members members' : List Member}
  {items : List Item} {vs : fs.Values}

theorem decode_object (hnames : fs.names.Nodup) (hmembers : ∀ m ∈ members, m.IsMember) :
    (Shape.record name fs).decode (w.object members) = .ok vs ↔ fs.Spelled members vs := by
  rw [Spacing.object,
    decode_braced hnames w.front_spaces w.inner_spaces w.back_spaces hmembers]
  exact ⟨fun h => ⟨hmembers, h.1, h.2⟩, fun h => ⟨h.named, h.told⟩⟩

theorem decode_object_respelled (hnames : fs.names.Nodup) (hmembers : ∀ m ∈ members, m.IsMember)
    (hrespelled : fs.Respelled members members')
    (h : (Shape.record name fs).decode (w.object members) = .ok vs) :
    (Shape.record name fs).decode (w'.object members') = .ok vs := by
  have hspelled := hrespelled.spelled hnames ((decode_object hnames hmembers).mp h)
  exact (decode_object hnames hspelled.isMember).mpr hspelled

theorem decode_list_restated (hnames : fs.names.Nodup) (hmembers : ∀ m ∈ members, m.IsMember)
    (hitems : ∀ i ∈ items, i.IsItem) (hrestated : fs.Restated innerDepth members items)
    (h : (Shape.record name fs).decode (w.object members) = .ok vs) :
    (Shape.record name fs).decode (w'.list items) = .ok vs := by
  have hspelled := (decode_object hnames hmembers).mp h
  rw [Spacing.list, decode_bracketed w'.front_spaces w'.inner_spaces w'.back_spaces hitems]
  exact hrestated.listed hspelled.told

/-- What holds of all values of a record holds of the values of a type that is one. -/
theorem decode_of_record {α : Type} [Wire α] {text text' : List UInt8} {a : α}
    (hshape : Wire.shape α = .record name fs)
    (h : ∀ vs, (Shape.record name fs).decode text = .ok vs →
      (Shape.record name fs).decode text' = .ok vs)
    (ha : Wire.decode text = .ok a) : Wire.decode text' = .ok a := by
  have hshapes : ∀ v, (Wire.shape α).decode text = .ok v → (Wire.shape α).decode text' = .ok v := by
    rw [hshape]
    exact h
  obtain ⟨v, hv, rfl⟩ := exists_of_map_eq_ok ha
  rw [Wire.decode, hshapes v hv]
  rfl

/-- Types of the wire that are records are decoded alike, if no two fields have one name. -/
theorem decodesAlike_of_record {α : Type} [Wire α] (hshape : Wire.shape α = .record name fs)
    (hnames : fs.names.Nodup) : DecodesAlike α := by
  have hfields : (Wire.shape α).fields = fs := by
    rw [hshape]
    rfl
  constructor
  · intro w w' members members' a hmembers hrespelled
    rw [hfields] at hrespelled
    exact decode_of_record hshape fun _ => decode_object_respelled hnames hmembers hrespelled
  · intro w w' members items a hmembers hitems hrestated
    rw [hfields] at hrestated
    exact decode_of_record hshape fun _ => decode_list_restated hnames hmembers hitems hrestated

end Records

/-! ### The types -/

theorem HourlyRecord.decodesAlike : DecodesAlike HourlyRecord :=
  decodesAlike_of_record rfl HourlyRecord.isPlain.1

theorem PublicHourlyPayload.decodesAlike : DecodesAlike PublicHourlyPayload := by
  have hnames : ["start_hour", "end_hour", "rows"].Nodup := by decide
  exact decodesAlike_of_record rfl hnames

theorem PageParams.decodesAlike : DecodesAlike PageParams := by
  have hnames : ["p", "page_size"].Nodup := by decide
  exact decodesAlike_of_record rfl hnames

theorem FingerprintUser.decodesAlike : DecodesAlike FingerprintUser := by
  have hnames : FingerprintUser.shape.fields.names.Nodup := by decide
  exact decodesAlike_of_record rfl hnames

theorem DuplicateVisitor.decodesAlike : DecodesAlike DuplicateVisitor := by
  have hnames : DuplicateVisitor.shape.fields.names.Nodup := by decide
  exact decodesAlike_of_record rfl hnames

theorem RecordRequest.decodesAlike : DecodesAlike RecordRequest := by
  have hnames : ["visitor_id"].Nodup := by decide
  exact decodesAlike_of_record rfl hnames

theorem Envelope.nodup_names (s : Shape) : (Envelope.shape s).fields.names.Nodup := by
  have hnames : ["success", "message", "data"].Nodup := by decide
  exact hnames

theorem Envelope.decodesAlike {α : Type} [Wire α] : DecodesAlike (Envelope α) :=
  decodesAlike_of_record rfl (Envelope.nodup_names (Wire.shape α))

/-! ### Pages -/

/-- `null`, or a list of nothing. -/
def IsEmptyListing (text : List UInt8) : Prop :=
  text = 0x6E :: ull ∨ ∃ inner, IsSpaces inner ∧ text = bracketed inner []

namespace Page

variable {α : Type} [Wire α] {w w' : Spacing} {front back : List Member} {m : Member}
  {page : Page α}

theorem nodup_names (s : Shape) : (Page.shape s).fields.names.Nodup := by
  have hnames : ["page", "page_size", "total", "items"].Nodup := by decide
  exact hnames

theorem decodesAlike : DecodesAlike (Page α) :=
  decodesAlike_of_record rfl (nodup_names (Wire.shape α))

/-- An empty listing is the default of the items. -/
theorem holdsDefault_items {s : Shape} {text : List UInt8} (h : IsEmptyListing text) :
    (Page.shape s).fields.HoldsDefault innerDepth "items" text := by
  refine ⟨rfl, readAll?_eq_some.mpr ?_⟩
  rcases h with rfl | ⟨inner, hinner, rfl⟩
  · rfl
  · have hlist : Reader.list innerDepth (s.read (innerDepth - 1)) (bracketed inner [] ++ [])
        = .ok [] [] :=
      (list_bracketed hinner (List.forall_mem_nil _) (List.forall_mem_nil _)).mpr
        ⟨⟨by decide, rfl⟩, rfl⟩
    rw [List.append_nil, bracketed] at hlist
    rw [bracketed, Shape.read, orNull_of_ne rfl (by decide)]
    exact hlist

/-- Items that are an empty listing may be left out. -/
theorem respelled_leaveOut (hm : m.name? = some "items") (hempty : IsEmptyListing m.item.value) :
    (Page.shape (Wire.shape α)).fields.Respelled (front ++ m :: back) (front ++ back) :=
  .trans (.permute List.perm_middle) (.leaveOut hm (holdsDefault_items hempty))

/-- And where there are no items, they may be put in. -/
theorem respelled_putIn (hm : m.IsMember) (hname : m.name? = some "items")
    (hempty : IsEmptyListing m.item.value) (hnone : ∀ m' ∈ front ++ back, m'.name? ≠ some "items") :
    (Page.shape (Wire.shape α)).fields.Respelled (front ++ back) (front ++ m :: back) :=
  .trans (.putIn hm hname (holdsDefault_items hempty) hnone) (.permute List.perm_middle.symm)

/-- A page without members for its items has none. -/
theorem items_eq_nil (hmembers : ∀ m ∈ front ++ back, m.IsMember)
    (hnone : ∀ m ∈ front ++ back, m.name? ≠ some "items")
    (h : Wire.decode (w.object (front ++ back)) = .ok page) : page.items = [] := by
  obtain ⟨⟨number, size, total, items, _⟩, hdecode, rfl⟩ := exists_of_map_eq_ok h
  obtain ⟨-, -, -, -, -, htold, -⟩ :=
    (decode_object (nodup_names (Wire.shape α)) hmembers).mp hdecode
  rw [textsOf_eq_nil hnone] at htold
  exact congrArg (List.map Wire.take) htold

end Page

/--
**Spellings of a record are decoded alike.**  The members of an object may be permuted, those with
unknown names added, and those that give a default left out; and a list of the values, perhaps
without the last defaults, may stand for the object.  The items of a page may be missing, `null`, or
an empty list.
-/
theorem decode_spellings :
    DecodesAlike HourlyRecord ∧ DecodesAlike PublicHourlyPayload ∧ DecodesAlike PageParams ∧
    DecodesAlike FingerprintUser ∧ DecodesAlike DuplicateVisitor ∧ DecodesAlike RecordRequest ∧
    ∀ (α : Type) [Wire α], DecodesAlike (Envelope α) ∧ DecodesAlike (Page α) ∧
      ∀ {w w' : Spacing} {front back : List Member} {m : Member} (page : Page α),
        (∀ m' ∈ front ++ back, m'.IsMember) → (∀ m' ∈ front ++ back, m'.name? ≠ some "items") →
        m.IsMember → m.name? = some "items" → IsEmptyListing m.item.value →
        (Wire.decode (w.object (front ++ m :: back)) = .ok page ↔
          Wire.decode (w'.object (front ++ back)) = .ok page) ∧
        (Wire.decode (w'.object (front ++ back)) = .ok page → page.items = []) := by
  refine ⟨HourlyRecord.decodesAlike, PublicHourlyPayload.decodesAlike, PageParams.decodesAlike,
    FingerprintUser.decodesAlike, DuplicateVisitor.decodesAlike, RecordRequest.decodesAlike, ?_⟩
  intro α _
  refine ⟨Envelope.decodesAlike, Page.decodesAlike, ?_⟩
  intro w w' front back m page hmembers hnone hm hname hempty
  have hall : ∀ m' ∈ front ++ m :: back, m'.IsMember := by
    intro m' hm'
    rcases List.mem_cons.mp (List.perm_middle.mem_iff.mp hm') with rfl | hm'
    · exact hm
    · exact hmembers m' hm'
  refine ⟨⟨?_, ?_⟩, Page.items_eq_nil hmembers hnone⟩
  · exact Page.decodesAlike.object hall (Page.respelled_leaveOut hname hempty)
  · exact Page.decodesAlike.object hmembers (Page.respelled_putIn hm hname hempty hnone)

/-- A member without space. -/
def compact (label : String) (value : List UInt8) : Member :=
  ⟨[], bytesOf label, [], ⟨[], value, []⟩⟩

def countMember : Member := compact "user_count" [0x32]

def addressMember : Member := compact "ip" [0x22, 0x22]

def idMember : Member := compact "visitor_id" [0x22, 0x76, 0x22]

/-- What no field is called, and a number that could not be decoded. -/
def noteMember : Member := compact "note" [0x31, 0x65, 0x39, 0x39, 0x39]

def totalMember : Member := compact "total" [0x30]

def itemsMember : Member := compact "items" (0x6E :: ull)

theorem isQuoted_of_plain : ∀ {text : List UInt8},
    (∀ b ∈ text, b ≠ 0x22 ∧ b ≠ 0x5C ∧ ¬ b < 0x20) → IsQuoted text
  | [], _ => .nil
  | b :: text, h => by
    obtain ⟨⟨hquote, hslash, hcontrol⟩, htext⟩ := List.forall_mem_cons.mp h
    exact .plain hquote hslash hcontrol (isQuoted_of_plain htext)

theorem isMember_compact {label : String} {value : List UInt8} (hvalue : IsValue value)
    (hlabel : ∀ b ∈ bytesOf label, b ≠ 0x22 ∧ b ≠ 0x5C ∧ ¬ b < 0x20) :
    (compact label value).IsMember :=
  ⟨isSpaces_nil, isQuoted_of_plain hlabel, isSpaces_nil, isSpaces_nil, hvalue, isSpaces_nil⟩

theorem isMember_sent : ∀ m ∈ [countMember, addressMember, idMember, noteMember, totalMember,
    itemsMember], m.IsMember := by
  have hlabels : ∀ label ∈ ["user_count", "ip", "visitor_id", "note", "total", "items"],
      ∀ b ∈ bytesOf label, b ≠ 0x22 ∧ b ≠ 0x5C ∧ ¬ b < 0x20 := by decide +kernel
  have htwo : IsNumeral ([0x32] ++ []) :=
    .mk (.digits rfl (by decide) (List.forall_mem_nil _)) (.whole .none)
  have hv : IsQuoted [0x76] := .plain (by decide) (by decide) (by decide) .nil
  have hnines : AreDigits [0x39, 0x39] :=
    List.forall_mem_cons.mpr ⟨rfl, List.forall_mem_cons.mpr ⟨rfl, List.forall_mem_nil _⟩⟩
  have hhuge : IsNumeral ([0x31] ++ [0x65, 0x39, 0x39, 0x39]) :=
    .mk (.digits rfl (by decide) (List.forall_mem_nil _)) (.whole (.plain (.inl rfl) rfl hnines))
  have hzero : IsNumeral ([0x30] ++ []) := .mk .zero (.whole .none)
  simp only [List.forall_mem_cons] at hlabels ⊢
  obtain ⟨hcount, haddress, hid, hnote, htotal, hitems, -⟩ := hlabels
  exact ⟨isMember_compact (.positive htwo) hcount, isMember_compact (.text .nil) haddress,
    isMember_compact (.text hv) hid, isMember_compact (.positive hhuge) hnote,
    isMember_compact (.positive hzero) htotal, isMember_compact .null hitems,
    List.forall_mem_nil _⟩

/-- The address is left out, the note is added, and the id comes before the count. -/
theorem respelled_visitor : DuplicateVisitor.shape.fields.Respelled
    [countMember, addressMember, idMember] [noteMember, idMember, countMember] := by
  have haddress : addressMember.name? = some "ip" := by decide +kernel
  have hdefault : DuplicateVisitor.shape.fields.HoldsDefault innerDepth "ip"
      addressMember.item.value := ⟨rfl, by decide +kernel⟩
  have hnote : noteMember.name? = some "note" := by decide +kernel
  refine .trans (.permute (List.Perm.swap addressMember countMember [idMember])) ?_
  refine .trans (.leaveOut haddress hdefault) ?_
  refine .trans (.permute (List.Perm.swap idMember countMember [])) ?_
  exact .insert (isMember_sent noteMember (by simp)) hnote (by decide)

/-- The values in the order of the fields, of which the last is a default. -/
theorem restated_visitor : DuplicateVisitor.shape.fields.Restated innerDepth
    [countMember, addressMember, idMember]
    [idMember.item, addressMember.item, countMember.item] := by
  have hid : textsOf "visitor_id" [countMember, addressMember, idMember]
      = [idMember.item.value] := by decide +kernel
  have haddress : textsOf "ip" [countMember, addressMember, idMember]
      = [addressMember.item.value] := by decide +kernel
  have hcount : textsOf "user_count" [countMember, addressMember, idMember]
      = [countMember.item.value] := by decide +kernel
  have hseen : textsOf "last_seen" [countMember, addressMember, idMember] = [] := by
    decide +kernel
  have hv : readAll? (Shape.text.read innerDepth) idMember.item.value = some "v" := by
    decide +kernel
  have hnone : readAll? (Shape.text.read innerDepth) addressMember.item.value = some "" := by
    decide +kernel
  have htwo : readAll? (Shape.integer.read innerDepth) countMember.item.value = some 2 := by
    decide +kernel
  refine ⟨⟨"v", ?_, hv⟩, ⟨"", ?_, hnone⟩, ⟨(2 : Int64), ?_, htwo⟩, ⟨rfl, ?_⟩, rfl⟩
  · rw [hid]
    exact hv
  · rw [haddress]
    exact hnone
  · rw [hcount]
    exact htwo
  · rw [hseen]
    rfl

/-- A visitor in three spellings, and a page of visitors in two. -/
theorem decode_spellings_visitor :
    (∃ visitor : DuplicateVisitor,
      Wire.decode (bytesOf "\x7b\"user_count\":2,\"ip\":\"\",\"visitor_id\":\"v\"\x7d")
        = .ok visitor ∧
      Wire.decode (bytesOf "\x7b\"note\":1e999,\"visitor_id\":\"v\",\"user_count\":2\x7d")
        = .ok visitor ∧
      Wire.decode (bytesOf "[\"v\",\"\",2]") = .ok visitor) ∧
    ∃ page : Page DuplicateVisitor,
      Wire.decode (bytesOf "\x7b\"total\":0,\"items\":null\x7d") = .ok page ∧
      Wire.decode (bytesOf "\x7b\"total\":0\x7d") = .ok page ∧ page.items = [] := by
  have hcounted : bytesOf "\x7b\"user_count\":2,\"ip\":\"\",\"visitor_id\":\"v\"\x7d"
      = Spacing.none.object [countMember, addressMember, idMember] := by decide +kernel
  have hnoted : bytesOf "\x7b\"note\":1e999,\"visitor_id\":\"v\",\"user_count\":2\x7d"
      = Spacing.none.object [noteMember, idMember, countMember] := by decide +kernel
  have hlisted : bytesOf "[\"v\",\"\",2]"
      = Spacing.none.list [idMember.item, addressMember.item, countMember.item] := by
    decide +kernel
  have hvisitor : (Wire.decode (Spacing.none.object [countMember, addressMember, idMember]) :
      Except Complaint DuplicateVisitor).toOption.isSome := by decide +kernel
  obtain ⟨visitor, hvisitor⟩ := Option.isSome_iff_exists.mp hvisitor
  have hdecode := eq_ok_of_toOption hvisitor
  have hempty : bytesOf "\x7b\"total\":0\x7d" = Spacing.none.object ([totalMember] ++ []) := by
    decide +kernel
  have hnull : bytesOf "\x7b\"total\":0,\"items\":null\x7d"
      = Spacing.none.object ([totalMember] ++ itemsMember :: []) := by decide +kernel
  have hpage : (Wire.decode (Spacing.none.object ([totalMember] ++ [])) :
      Except Complaint (Page DuplicateVisitor)).toOption.isSome := by decide +kernel
  obtain ⟨page, hpage⟩ := Option.isSome_iff_exists.mp hpage
  have hmissing := eq_ok_of_toOption hpage
  have hsent := isMember_sent
  simp only [List.forall_mem_cons] at hsent
  obtain ⟨hcount, haddress, hid, -, htotal, hitems, -⟩ := hsent
  have hmembers : ∀ m ∈ [countMember, addressMember, idMember], m.IsMember := by
    simp only [List.forall_mem_cons]
    exact ⟨hcount, haddress, hid, List.forall_mem_nil _⟩
  have hvalues : ∀ i ∈ [idMember.item, addressMember.item, countMember.item], i.IsItem := by
    simp only [List.forall_mem_cons]
    exact ⟨hid.item, haddress.item, hcount.item, List.forall_mem_nil _⟩
  have hrest : ∀ m ∈ [totalMember] ++ [], m.IsMember := by
    simp only [List.append_nil, List.forall_mem_cons]
    exact ⟨htotal, List.forall_mem_nil _⟩
  obtain ⟨halike, hnone⟩ : (Wire.decode (Spacing.none.object ([totalMember] ++ itemsMember :: []))
        = .ok page ↔ Wire.decode (Spacing.none.object ([totalMember] ++ [])) = .ok page) ∧
      (Wire.decode (Spacing.none.object ([totalMember] ++ [])) = .ok page → page.items = []) :=
    (decode_spellings.2.2.2.2.2.2 DuplicateVisitor).2.2 page hrest (by decide +kernel) hitems
      (by decide +kernel) (.inl rfl)
  rw [hcounted, hnoted, hlisted, hempty, hnull]
  have hvisitors := decode_spellings.2.2.2.2.1
  refine ⟨⟨visitor, hdecode, ?_, ?_⟩, page, halike.mpr hmissing, hmissing, hnone hmissing⟩
  · exact hvisitors.object hmembers respelled_visitor hdecode
  · exact hvisitors.list hmembers hvalues restated_visitor hdecode

end HealthBoard
