/-
What a TOML text builds up, line by line.

A table comes into being in one of three ways: a header names it, a header names a table inside
it, or a dotted key runs through it.  The ways do not mix freely.  A header may name a table once,
and after it was only implied; a dotted key may go on with tables that dotted keys began.  An
array of tables grows by a header, and what follows is about its last table.  Whatever else is
given twice is a fault.
-/
import HealthBoard.Keyed
import HealthBoard.Toml.Complaint

namespace HealthBoard.Toml

/-- How a table came into being. -/
inductive Birth where
  /-- A header names it, or it was written down in braces. -/
  | named
  /-- A header names a table inside it. -/
  | implied
  /-- A dotted key runs through it. -/
  | dotted
  deriving DecidableEq

inductive Node where
  | text (s : String)
  | integer (n : Int64)
  | number (x : Float)
  | boolean (b : Bool)
  /-- A date, a time of the day, or both, in its usual form. -/
  | moment (s : String)
  | array (items : List Node)
  /-- A table in braces, which nothing can be added to. -/
  | closed (members : List (String × Node))
  | table (birth : Birth) (members : List (String × Node))
  /-- An array of tables, the members of each. -/
  | tables (rows : List (List (String × Node)))

/-- The members of a table. -/
abbrev Members := List (String × Node)

/-- What a complaint calls something that is no table. -/
def Node.kind : Node → String
  | .text _ => "string"
  | .integer _ => "integer"
  | .number _ => "float"
  | .boolean _ => "boolean"
  | .moment _ => "datetime"
  | .array _ => "array"
  | .closed _ => "inline table"
  | .table _ _ | .tables _ => "table"

/--
Puts a value at the end of a dotted key, from the table on in which the key stands.  `home` is the
name of that table, if it has one, and `walked` the part of the key that led further.
-/
def putDotted (home : Option (List String)) (value : Node) (last : String) (walked : List String) :
    List String → Members → Except Clash Members
  | [], members =>
    match members.lookup last with
    | none => .ok (members ++ [(last, value)])
    | some _ => .error (.duplicate last home)
  | name :: rest, members =>
    let further := putDotted home value last (walked ++ [name]) rest
    match members.lookup name with
    | none => do return members ++ [(name, .table .dotted (← further []))]
    | some (.table birth inner) =>
      if birth == .named then .error (.duplicate name none)
      else if rest.isEmpty && birth == .implied then .error (.duplicate last none)
      else do return upsert name (.table birth (← further inner)) members
    | some (.tables rows) =>
      if rest.isEmpty then .error (.duplicate last none)
      else do
        let inner ← further (rows.getLast?.getD [])
        return upsert name (.tables (rows.dropLast ++ [inner])) members
    | some node => .error (.noTable (walked ++ [name]) node.kind)

/-- Changes the members of the table that a header leads to; the way there may be implied. -/
def within (change : Members → Except Clash Members) (walked : List String) :
    List String → Members → Except Clash Members
  | [], members => change members
  | name :: rest, members =>
    let further := within change (walked ++ [name]) rest
    match members.lookup name with
    | none => do return members ++ [(name, .table .implied (← further []))]
    | some (.table birth inner) => do
      return upsert name (.table birth (← further inner)) members
    | some (.tables rows) => do
      let inner ← further (rows.getLast?.getD [])
      return upsert name (.tables (rows.dropLast ++ [inner])) members
    | some node => .error (.noTable (walked ++ [name]) node.kind)

/-- A header names a table inside of another one. -/
def nameTable (home : List String) (last : String) (members : Members) : Except Clash Members :=
  match members.lookup last with
  | none => .ok (members ++ [(last, .table .named [])])
  | some (.table .implied inner) => .ok (upsert last (.table .named inner) members)
  | some _ => .error (.duplicate last (some home))

/-- A header begins another table of an array. -/
def addRow (home : List String) (last : String) (members : Members) : Except Clash Members :=
  match members.lookup last with
  | none => .ok (members ++ [(last, .tables [[]])])
  | some (.tables rows) => .ok (upsert last (.tables (rows ++ [[]])) members)
  | some _ => .error (.duplicate last (some home))

/-- A line of the text, as far as it says something. -/
inductive Line where
  | pair (key : List String) (value : Node)
  | header (key : List String)
  | rowHeader (key : List String)

/-- What is built so far, and the table that pairs go to. -/
structure Document where
  members : Members := []
  current : List String := []

/-- The document after another line. -/
def Document.add (d : Document) : Line → Except Clash Document
  | .pair key value => do
    let put := putDotted (some d.current) value (key.getLast?.getD "") [] key.dropLast
    return { d with members := ← within put [] d.current d.members }
  | .header key => do
    let name := nameTable key.dropLast (key.getLast?.getD "")
    return ⟨← within name [] key.dropLast d.members, key⟩
  | .rowHeader key => do
    let add := addRow key.dropLast (key.getLast?.getD "")
    return ⟨← within add [] key.dropLast d.members, key⟩

/-- The members of a table in braces. -/
def closedMembers (pairs : List (List String × Node)) : Except Clash Members :=
  pairs.foldlM (fun members (key, value) =>
    putDotted none value (key.getLast?.getD "") [] key.dropLast members) []

end HealthBoard.Toml
