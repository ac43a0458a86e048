/-
The forms that values of the wire have.

A shape says what a decoder wants: a whole number, a text, a list of something, a record with
named fields.  Every shape has a type of values, so a decoder for a shape gives a value of the
right type and never one that still has to be looked at.  The wire types are written down as
shapes once, and from that follow how they are read from a text, how they are taken out of a JSON
value, and how they are written.

A field is either required or has a default, and the default is always the blank value of its
shape: zero, no text, an empty list.
-/
import HealthBoard.Json.Complaint
import HealthBoard.Json.Value

namespace HealthBoard.Json

mutual

/-- The form that a value has to have. -/
inductive Shape where
  /-- A whole number of 64 bits. -/
  | integer
  /-- Any number. -/
  | number
  | boolean
  | text
  /-- Any value at all. -/
  | any
  /-- `null` or a value. -/
  | optional (inner : Shape)
  | list (item : Shape)
  /-- A list, or `null` for the empty one. -/
  | listOrNull (item : Shape)
  /-- An object with these members, or a list of their values in order. -/
  | record (name : String) (fields : Fields)

/-- The fields of a record, in the order of their declaration. -/
inductive Fields where
  | done
  | field (name : String) (required : Bool) (shape : Shape) (rest : Fields)

end

mutual

/-- The values of a shape. -/
@[reducible] def Shape.Value : Shape → Type
  | .integer => Int64
  | .number => Float
  | .boolean => Bool
  | .text => String
  | .any => Json
  | .optional s => Option s.Value
  | .list s => List s.Value
  | .listOrNull s => List s.Value
  | .record _ fs => fs.Values

@[reducible] def Fields.Values : Fields → Type
  | .done => Unit
  | .field _ _ s rest => s.Value × rest.Values

end

/-- The fields met so far while a record is read. -/
@[reducible] def Fields.Slots : Fields → Type
  | .done => Unit
  | .field _ _ s rest => Option s.Value × rest.Slots

mutual

/-- What a field with a default holds if it is not given. -/
def Shape.blank : (s : Shape) → s.Value
  | .integer => (0 : Int64)
  | .number => (0 : Float)
  | .boolean => false
  | .text => ""
  | .any => Json.null
  | .optional _ => none
  | .list _ => []
  | .listOrNull _ => []
  | .record _ fs => fs.blank

def Fields.blank : (fs : Fields) → fs.Values
  | .done => ()
  | .field _ _ s rest => (s.blank, rest.blank)

end

/-- What a required field holds if no member gives it: only an optional one may then be left out. -/
def Shape.absent? : (s : Shape) → Option s.Value
  | .optional _ => some none
  | _ => none

/-- No field met yet. -/
def Fields.unmet : (fs : Fields) → fs.Slots
  | .done => ()
  | .field _ _ _ rest => (none, rest.unmet)

/-- How many fields there are. -/
def Fields.count : Fields → Nat
  | .done => 0
  | .field _ _ _ rest => rest.count + 1

/-- Fills what was not met.  The first required field without a value is the one missed. -/
def Fields.complete : (fs : Fields) → fs.Slots → Except Mismatch fs.Values
  | .done, () => .ok ()
  | .field name required s rest, (slot, slots) => do
    let value ← match slot with
      | some value => .ok value
      | none =>
        if required then
          match s.absent? with
          | some value => .ok value
          | none => .error (.missing name)
        else .ok s.blank
    return (value, ← rest.complete slots)

mutual

/-- A value of a shape as JSON, records with all their fields in order. -/
def Shape.toJson : (s : Shape) → s.Value → Json
  | .integer, n => .int n.toInt
  | .number, x => .float x
  | .boolean, b => .bool b
  | .text, t => .str t
  | .any, j => j
  | .optional s, v =>
    match v with
    | none => .null
    | some v => s.toJson v
  | .list s, vs => .arr (vs.map s.toJson)
  | .listOrNull s, vs => .arr (vs.map s.toJson)
  | .record _ fs, vs => .obj (fs.toMembers vs)

def Fields.toMembers : (fs : Fields) → fs.Values → List (String × Json)
  | .done, () => []
  | .field name _ s rest, (v, vs) => (name, s.toJson v) :: rest.toMembers vs

end

/-- What a shape is called where another value was found. -/
def Shape.wanted : Shape → String
  | .integer => "i64"
  | .number => "f64"
  | .boolean => "a boolean"
  | .text => "a string"
  | .any => "any value"
  | .optional s => s.wanted
  | .list _ => "a sequence"
  | .listOrNull _ => "a sequence"
  | .record name _ => "struct " ++ name

/-- A value as a complaint names it. -/
def found : Json → Found
  | .null => .null
  | .bool b => .boolean b
  | .int n => .integer n
  | .float x => .number x
  | .str s => .text s
  | .arr _ => .sequence
  | .obj _ => .map

/-- A whole number as the nearest number of 64 bits with a fraction. -/
def wholeToFloat (n : Int) : Float :=
  if 0 ≤ n then n.toNat.toUInt64.toFloat else (Int64.ofInt n).toFloat

/-- A number where a whole one of 64 bits is wanted. -/
def asInteger : Json → Except Mismatch Int64
  | .int n =>
    if leastInteger ≤ n ∧ n ≤ greatestInteger then .ok (Int64.ofInt n)
    else .error (.wrongValue (.integer n) Shape.integer.wanted)
  | j => .error (.wrongType (found j) Shape.integer.wanted)

/-- A number where any is wanted. -/
def asNumber : Json → Except Mismatch Float
  | .int n => .ok (wholeToFloat n)
  | .float x => .ok x
  | j => .error (.wrongType (found j) Shape.number.wanted)

end HealthBoard.Json
