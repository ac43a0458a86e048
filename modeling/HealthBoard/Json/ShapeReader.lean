/-
Reading a value of a given shape straight from a text.

The text is not turned into a JSON value first, so complaints carry their place: a value of the
wrong type is complained about after the part of it that showed what it is, a missing or repeated
field after the record it belongs to.  Members are taken in the order of the text.
-/
import HealthBoard.Json.Shape
import HealthBoard.Json.Skip

namespace HealthBoard.Json

namespace Reader

/-- Complains about a value at the place reached. -/
def mismatch {α : Type} (m : Mismatch) : Reader α := fun rest =>
  .error ⟨.form m, rest.length, []⟩ rest

/-- Passes a judgement on, placed where the reader stands. -/
def judged {α : Type} : Except Mismatch α → Reader α
  | .ok a => pure a
  | .error m => mismatch m

/--
Complains that something else was wanted.  The value is read as far as its name in the complaint
needs it: a scalar wholly, of a list or an object nothing.
-/
def refuse {α : Type} (wanted : String) : Reader α := do
  match ← peek with
  | none => failNext .expectedValue
  | some b =>
    if b == 0x6E then do skip; word ull; mismatch (.wrongType .null wanted)
    else if b == 0x74 then do skip; word rue; mismatch (.wrongType (.boolean true) wanted)
    else if b == 0x66 then do skip; word alse; mismatch (.wrongType (.boolean false) wanted)
    else if b == 0x2D then do
      skip
      let n ← number true
      mismatch (.wrongType (found n) wanted)
    else if isDigit b then do
      let n ← number false
      mismatch (.wrongType (found n) wanted)
    else if b == 0x22 then do
      skip
      let s ← string
      mismatch (.wrongType (.text s) wanted)
    else if b == 0x5B then mismatch (.wrongType .sequence wanted)
    else if b == 0x7B then mismatch (.wrongType .map wanted)
    else failNext .expectedValue

/-- The first byte of a value, still unread; there has to be one. -/
def valueStart : Reader UInt8 := do
  match ← peekToken with
  | none => failNext .endInValue
  | some b => pure b

/-- A number judged by `accept`. -/
def numeric {α : Type} (wanted : String) (accept : Json → Except Mismatch α) : Reader α := do
  let b ← valueStart
  if b == 0x2D then do
    skip
    judged (accept (← number true))
  else if isDigit b then judged (accept (← number false))
  else refuse wanted

def boolean : Reader Bool := do
  let b ← valueStart
  if b == 0x74 then do skip; word rue; pure true
  else if b == 0x66 then do skip; word alse; pure false
  else refuse Shape.boolean.wanted

def text : Reader String := do
  let b ← valueStart
  if b == 0x22 then do skip; string
  else refuse Shape.text.wanted

/-- `null`, or what `inner` reads. -/
def orNull {α : Type} (none : α) (inner : Reader α) : Reader α := do
  match ← peekToken with
  | some 0x6E => do skip; word ull; pure none
  | _ => inner

/-- A list of what `item` reads, `depth` more levels being allowed. -/
def list {α : Type} (depth : Nat) (item : Reader α) : Reader (List α) := do
  let b ← valueStart
  if b == 0x5B then do
    descend (depth - 1)
    skip
    items fun i => within (.index i) item
  else refuse "a sequence"

end Reader

open Reader

mutual

/-- Reads a value of the shape, `depth` more levels of nesting being allowed. -/
def Shape.read : (s : Shape) → (depth : Nat) → Reader s.Value
  | .integer, _ => numeric Shape.integer.wanted asInteger
  | .number, _ => numeric Shape.number.wanted asNumber
  | .boolean, _ => Reader.boolean
  | .text, _ => Reader.text
  | .any, depth => Reader.value depth
  | .optional s, depth => orNull (none : Option s.Value) (do return some (← s.read depth))
  | .list s, depth => Reader.list depth (s.read (depth - 1))
  | .listOrNull s, depth =>
    orNull ([] : List s.Value) (Reader.list depth (s.read (depth - 1)))
  | .record name fs, depth => do
    let b ← valueStart
    if b == 0x5B then do
      descend (depth - 1)
      skip
      closing endList (fs.readItems name fs.count 0 (depth - 1))
    else if b == 0x7B then do
      descend (depth - 1)
      skip
      closing endObject do
        match ← foldMembers (fun key slots => fs.readMember key (depth - 1) slots) fs.unmet with
        | .ok slots => pure (fs.complete slots)
        | .error m => pure (.error m)
    else refuse ("struct " ++ name)

/-- Reads the values of a record that is given as a list, from the field at `index` on. -/
def Fields.readItems (record : String) (total : Nat) :
    (fs : Fields) → (index : Nat) → (depth : Nat) → Reader (Except Mismatch fs.Values)
  | .done, _, _ => pure (.ok ())
  | .field _ required s rest, index, depth => do
    if ← hasItem (index == 0) then
      let v ← within (.index index) (s.read depth)
      match ← rest.readItems record total (index + 1) depth with
      | .ok vs => pure (.ok (v, vs))
      | .error m => pure (.error m)
    else if required then pure (.error (.tooShort index record total))
    else
      match ← rest.readItems record total (index + 1) depth with
      | .ok vs => pure (.ok (s.blank, vs))
      | .error m => pure (.error m)

/--
Reads the value of a member and puts it into the slot of its field.  A field met before is refused
before its value is read; a member that is no field is passed over.
-/
def Fields.readMember : (fs : Fields) → (key : String) → (depth : Nat) → fs.Slots →
    Reader (Except Mismatch fs.Slots)
  | .done, key, _, () => do
    colon
    within (.key key) skipValue
    pure (.ok ())
  | .field name _ s rest, key, depth, (slot, slots) => do
    if key == name then
      if slot.isSome then pure (.error (.repeated name))
      else
        colon
        let v ← within (.key key) (s.read depth)
        pure (.ok (some v, slots))
    else
      match ← rest.readMember key depth slots with
      | .ok slots => pure (.ok (slot, slots))
      | .error m => pure (.error m)

end

/-- Decodes a text as a value of the shape. -/
def Shape.decode (s : Shape) (text : List UInt8) : Except Complaint s.Value :=
  Reader.run (s.read greatestDepth) text

end HealthBoard.Json
