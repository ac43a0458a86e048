/-
Settings of the types that are asked for.

A setting is converted where that makes sense: words for yes and no are truth values and numbers,
numbers are rounded, and numbers and truth values are texts.  What cannot be converted is
complained about with the key and the place that the setting came from.

Some settings are sections: they hold fields.  A section is a table with the fields as members,
or a list with the fields in order.  What is wrong in a field that is there is complained about
before any field that is not.
-/
import HealthBoard.Decimal.Reading
import HealthBoard.Json.Complaint
import HealthBoard.Settings.Setting

namespace HealthBoard

/-- Why settings cannot be loaded. -/
inductive SettingsFault where
  /-- A file is not what its format wants. -/
  | unreadable (cause origin : String)
  | wrongType (found wanted : String) (key : List Json.Step) (origin : Option String)
  | form (mismatch : Json.Mismatch)
  | noSection (found record : String)

namespace SettingsFault

def message : SettingsFault → String
  | .unreadable cause origin => cause ++ " in " ++ origin
  | .wrongType found wanted key origin =>
    "invalid type: " ++ found ++ ", expected " ++ wanted ++
      (if key.isEmpty then "" else " for key `" ++ Json.pathText key ++ "`") ++
      (origin.map (" in " ++ ·)).getD ""
  | .form mismatch => mismatch.message
  | .noSection found record => "invalid type: " ++ found ++ ", expected struct " ++ record

/-- The fault as it is seen from outside of the part that the step leads to. -/
def under (step : Json.Step) : SettingsFault → SettingsFault
  | .wrongType found wanted key origin => .wrongType found wanted (step :: key) origin
  | fault => fault

end SettingsFault

namespace Setting

/-- Layout of numbers where a section was wanted. -/
def foundLayout : Decimal.Layout := ⟨none, true, false⟩

/-- A truth value as text. -/
def yesNoText (b : Bool) : String := if b then "true" else "false"

/-- A setting as a complaint names it where it cannot be converted. -/
def found : Setting → String
  | .scalar _ .nothing => "unit value"
  | .scalar _ (.boolean b) => "boolean `" ++ yesNoText b ++ "`"
  | .scalar _ (.integer n) => "64-bit integer `" ++ Decimal.text n.toInt ++ "`"
  | .scalar _ (.number x) => "floating point `" ++ Decimal.settingLayout.text x ++ "`"
  | .scalar _ (.text s) => "string " ++ Text.quoted s
  | .list _ _ => "sequence"
  | .table _ _ => "map"

/-- A setting as a complaint names it where a section was wanted. -/
def foundForSection : Setting → String
  | .scalar _ (.integer n) => "integer `" ++ Decimal.text n.toInt ++ "`"
  | .scalar _ (.number x) =>
    let text := if x.isFinite then foundLayout.text x else Decimal.settingLayout.text x
    "floating point `" ++ text ++ "`"
  | s => s.found

/-- The complaint that a setting is not what is wanted. -/
def refuse {α : Type} (s : Setting) (wanted : String) : Except SettingsFault α :=
  .error (.wrongType s.found wanted [] s.origin)

/-! ### Conversions -/

/-- The words for yes and no, in any case. -/
def yesNo? (s : String) : Option Bool :=
  match Text.lowercase s with
  | "true" | "on" | "yes" => some true
  | "false" | "off" | "no" => some false
  | _ => none

def asBoolean : Setting → Except SettingsFault Bool
  | .scalar _ (.boolean b) => .ok b
  | .scalar _ (.integer n) => .ok (n != 0)
  | .scalar _ (.number x) => .ok (x != 0)
  | .scalar origin (.text s) =>
    match yesNo? s, Text.lowercase s with
    | some b, _ => .ok b
    | none, "1" => .ok true
    | none, "0" => .ok false
    | none, lowered => (Setting.scalar origin (.text lowered)).refuse "a boolean"
  | s => s.refuse "a boolean"

/-- A whole number of 64 bits; fractions are rounded, halves away from zero. -/
def asInteger : Setting → Except SettingsFault Int64
  | .scalar _ (.boolean b) => .ok (if b then 1 else 0)
  | .scalar _ (.integer n) => .ok n
  | .scalar _ (.number x) => .ok x.round.toInt64
  | s@(.scalar _ (.text t)) =>
    match yesNo? t, Decimal.readInteger t with
    | some b, _ => .ok (if b then 1 else 0)
    | none, .ok n => .ok n
    | none, .error _ => s.refuse "an integer"
  | s => s.refuse "an integer"

/-- A whole number of 64 bits that is not negative. -/
def asNatural : Setting → Except SettingsFault UInt64
  | .scalar _ (.boolean b) => .ok (if b then 1 else 0)
  | s@(.scalar _ (.integer n)) =>
    if n < 0 then s.refuse "an unsigned 64 bit or less integer" else .ok n.toUInt64
  | .scalar _ (.number x) => .ok x.round.toUInt64
  | s@(.scalar _ (.text t)) =>
    match yesNo? t, Decimal.readNatural t with
    | some b, _ => .ok (if b then 1 else 0)
    | none, .ok n => .ok n
    | none, .error _ => s.refuse "an integer"
  | s => s.refuse "an integer"

/-- The number that a server listens at. -/
def asPort (s : Setting) : Except SettingsFault UInt16 := do
  let n ← s.asNatural
  if n ≤ 65535 then return n.toUInt16
  else throw (.wrongType ("64-bit unsigned integer `" ++ Decimal.text n.toNat ++ "`")
    "an unsigned 16 bit integer" [] none)

def asNumber : Setting → Except SettingsFault Float
  | .scalar _ (.boolean b) => .ok (if b then 1 else 0)
  | .scalar _ (.integer n) => .ok n.toFloat
  | .scalar _ (.number x) => .ok x
  | s@(.scalar _ (.text t)) =>
    match yesNo? t, Decimal.readFloat? t with
    | some b, _ => .ok (if b then 1 else 0)
    | none, some x => .ok x
    | none, none => s.refuse "a floating point"
  | s => s.refuse "a floating point"

def asText : Setting → Except SettingsFault String
  | .scalar _ (.boolean b) => .ok (yesNoText b)
  | .scalar _ (.integer n) => .ok (Decimal.text n.toInt)
  | .scalar _ (.number x) => .ok (Decimal.settingLayout.text x)
  | .scalar _ (.text s) => .ok s
  | s => s.refuse "a string"

/-- Nothing, or what the conversion makes of it. -/
def optional {α : Type} (convert : Setting → Except SettingsFault α) :
    Setting → Except SettingsFault (Option α)
  | .scalar _ .nothing => .ok none
  | s => (convert s).map some

end Setting

/-! ### Sections -/

/-- A section: its name, the names of its fields in order, and where the fields are. -/
structure Section where
  record : String
  fields : List String
  setting : Setting

namespace Section

/-- A setting as a section. -/
def ofSetting (record : String) (fields : List String) (s : Setting) :
    Except SettingsFault Section :=
  match s with
  | .scalar _ _ => .error (.noSection s.foundForSection record)
  | s => .ok ⟨record, fields, s⟩

/-- The setting of a field, if it is given, and the step that leads to it. -/
def find? (s : Section) (field : String) : Option (Json.Step × Setting) :=
  match s.setting with
  | .list _ items =>
    let i := s.fields.idxOf field
    (items[i]?).map fun item => (.index i, item)
  | setting => (setting.member? field).map fun member => (.key field, member)

/-- The value of a field, if it is given. -/
def get? {α : Type} (s : Section) (field : String) (convert : Setting → Except SettingsFault α) :
    Except SettingsFault (Option α) :=
  match s.find? field with
  | none => .ok none
  | some (step, setting) =>
    match convert setting with
    | .ok a => .ok (some a)
    | .error fault => .error (fault.under step)

/-- The value of a field that has to be given. -/
def require {α : Type} (s : Section) (field : String) : Option α → Except SettingsFault α
  | some a => .ok a
  | none =>
    match s.setting with
    | .list _ _ =>
      .error (.form (.tooShort (s.fields.idxOf field) s.record s.fields.length))
    | _ => .error (.form (.missing field))

end Section
end HealthBoard
