/-
Taking a value of a given shape out of a JSON value.

This is the second way to decode: the text was read without knowing what it should hold, and the
value is looked at afterwards.  There are no places to complain about then, and the members of an
object are looked at in the order of their names.
-/
import HealthBoard.Json.Shape

namespace HealthBoard.Json

/-- The items of a list, each converted; the first refusal is the answer. -/
def convertAll {α : Type} (item : Json → Except Mismatch α) :
    List Json → Except Mismatch (List α)
  | [] => .ok []
  | j :: rest => do
    let a ← item j
    return a :: (← convertAll item rest)

/-- Fills the slots from the members of an object, one after the other. -/
def convertMembers {σ : Type} (step : String → Json → σ → Except Mismatch σ) :
    List (String × Json) → σ → Except Mismatch σ
  | [], slots => .ok slots
  | (key, j) :: rest, slots => do convertMembers step rest (← step key j slots)

mutual

/-- The value of the shape that a JSON value holds. -/
def Shape.convert : (s : Shape) → Json → Except Mismatch s.Value
  | .integer, j => asInteger j
  | .number, j => asNumber j
  | .boolean, j =>
    match j with
    | .bool b => .ok b
    | j => .error (.wrongType (found j) Shape.boolean.wanted)
  | .text, j =>
    match j with
    | .str s => .ok s
    | j => .error (.wrongType (found j) Shape.text.wanted)
  | .any, j => .ok j
  | .optional s, j =>
    match j with
    | .null => .ok none
    | j => (s.convert j).map some
  | .list s, j =>
    match j with
    | .arr items => convertAll s.convert items
    | j => .error (.wrongType (found j) "a sequence")
  | .listOrNull s, j =>
    match j with
    | .null => .ok []
    | .arr items => convertAll s.convert items
    | j => .error (.wrongType (found j) "a sequence")
  | .record name fs, j =>
    match j with
    | .arr items => do
      let (values, rest) ← fs.convertItems name fs.count 0 items
      if rest.isEmpty then .ok values else .error (.tooLong items.length)
    | .obj members => do
      fs.complete (← convertMembers fs.convertMember members fs.unmet)
    | j => .error (.wrongType (found j) ("struct " ++ name))

/-- The fields from a list of their values, from the field at `index` on, and what is left. -/
def Fields.convertItems (record : String) (total : Nat) :
    (fs : Fields) → (index : Nat) → List Json → Except Mismatch (fs.Values × List Json)
  | .done, _, items => .ok ((), items)
  | .field _ _ s rest, index, j :: items => do
    let v ← s.convert j
    let (vs, left) ← rest.convertItems record total (index + 1) items
    return ((v, vs), left)
  | .field _ required s rest, index, [] => do
    if required then .error (.tooShort index record total)
    else
      let (vs, left) ← rest.convertItems record total (index + 1) []
      return ((s.blank, vs), left)

/-- Puts a member into the slot of its field; a member that is no field is left out. -/
def Fields.convertMember : (fs : Fields) → (key : String) → Json → fs.Slots →
    Except Mismatch fs.Slots
  | .done, _, _, () => .ok ()
  | .field name _ s rest, key, j, (slot, slots) =>
    if key == name then
      if slot.isSome then .error (.repeated name)
      else do return (some (← s.convert j), slots)
    else do return (slot, ← rest.convertMember key j slots)

end

end HealthBoard.Json
