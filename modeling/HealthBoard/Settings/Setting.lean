/-
Settings before anyone asks what they should be.

Settings come from several places and are laid over each other: where two places both have a
table, their members are merged, and anywhere else the later one wins.  A setting remembers where
it came from, because a complaint about it names the place; a table that was put together from
parts comes from no single place.

A key may be a path.  Its parts are names after points and positions in brackets, and on the way
to the last part whatever is no table, or no list, becomes one.
-/
import HealthBoard.Keyed

namespace HealthBoard

/-- A setting that has no parts. -/
inductive Scalar where
  | nothing
  | boolean (b : Bool)
  | integer (n : Int64)
  | number (x : Float)
  | text (s : String)

/-- A setting, and where it came from, if from a single place. -/
inductive Setting where
  | scalar (origin : Option String) (value : Scalar)
  | list (origin : Option String) (items : List Setting)
  | table (origin : Option String) (members : List (String × Setting))

namespace Setting

def origin : Setting → Option String
  | .scalar origin _ | .list origin _ | .table origin _ => origin

/-- Nothing, from nowhere. -/
def nothing : Setting := .scalar none .nothing

/-- The table without members. -/
def empty : Setting := .table none []

/-- The member of a name, if there is a table that has one. -/
def member? (name : String) : Setting → Option Setting
  | .table _ members => members.lookup name
  | _ => none

/-- The table with a member; what is no table gives way to one. -/
def withMember (s : Setting) (name : String) (value : Setting) : Setting :=
  match s with
  | .table origin members => .table origin (upsert name value members)
  | _ => .table none [(name, value)]

mutual

/-- A setting laid over what was there before: tables are merged, all else replaces. -/
def laidOn (before : Option Setting) : Setting → Setting
  | .table _ members => layMembers (before.getD empty) members
  | .list origin items => .list origin items
  | .scalar origin value => .scalar origin value

/-- Members laid over a table, one after the other. -/
def layMembers (before : Setting) : List (String × Setting) → Setting
  | [] => before
  | (name, value) :: rest =>
    layMembers (before.withMember name (value.laidOn (before.member? name))) rest

end

/-! ### Paths -/

/-- A part of a key. -/
inductive Step where
  | child (name : String)
  /-- A position; a negative one counts from the end. -/
  | item (position : Int)
  deriving DecidableEq

/-- The position in a list of a given size, if it is not before its beginning. -/
def place? (position : Int) (size : Nat) : Option Nat :=
  if 0 ≤ position then some position.toNat
  else if position.natAbs ≤ size then some (size - position.natAbs)
  else none

/-- The list with another item at a place; a list that is too short is filled up with nothing. -/
def withItem (items : List Setting) (place : Nat) (value : Setting) : List Setting :=
  (items ++ List.replicate (place + 1 - items.length) nothing).set place value

/-- Puts a setting at the end of a path. -/
def put (value : Setting) : List Step → Setting → Setting
  | [], _ => value
  | [.child name], root => root.withMember name (value.laidOn (root.member? name))
  | .child name :: rest, root =>
    root.withMember name (put value rest ((root.member? name).getD nothing))
  | .item position :: rest, root =>
    let items := match root with
      | .list _ items => items
      | _ => []
    let origin := match root with
      | .list origin _ => origin
      | _ => none
    match place? position items.length with
    | none => .list origin items
    | some place =>
      .list origin (withItem items place (put value rest ((items[place]?).getD nothing)))

/-- A character of a name in a key. -/
def isKeyChar (c : Char) : Bool := c.isAlphanum || c == '_' || c == '-' || c == ' '

/-- A position between brackets, and what comes after it. -/
def position? (cs : List Char) : Option (Int × List Char) :=
  let (negative, cs) := match cs with
    | '-' :: rest => (true, rest)
    | rest => (false, rest)
  let ds := cs.takeWhile Char.isDigit
  match ds.isEmpty, cs.dropWhile Char.isDigit with
  | false, ']' :: rest =>
    let n : Int := ds.foldl (fun n c => 10 * n + (c.toNat - '0'.toNat)) 0
    some (if negative then -n else n, rest)
  | _, _ => none

/-- The parts of a key after its first; there are no more of them than characters. -/
def moreSteps? : (fuel : Nat) → List Char → Option (List Step)
  | _, [] => some []
  | 0, _ => none
  | fuel + 1, '.' :: rest =>
    let name := rest.takeWhile isKeyChar
    if name.isEmpty then none
    else (moreSteps? fuel (rest.dropWhile isKeyChar)).map (.child (String.ofList name) :: ·)
  | fuel + 1, '[' :: rest => do
    let (position, rest) ← position? rest
    return .item position :: (← moreSteps? fuel rest)
  | _, _ => none

/-- The parts of a key; a key that is no path is one name. -/
def steps (key : String) : List Step :=
  let cs := key.toList
  let name := cs.takeWhile isKeyChar
  let whole := [.child key]
  if name.isEmpty then whole
  else match moreSteps? cs.length (cs.dropWhile isKeyChar) with
    | some more => .child (String.ofList name) :: more
    | none => whole

/-- Lays settings over a table, each under its key. -/
def lay (root : Setting) (settings : List (String × Setting)) : Setting :=
  settings.foldl (fun root (key, value) => put value (steps key) root) root

end Setting
end HealthBoard
