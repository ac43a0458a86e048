/-
JSON values.

A number is either whole or not, and stays what its text said: `1` and `1.0` are two values, and
decoders tell them apart.  The members of an object are kept in the order in which they are to be
written; an object that was read holds them by the order of their names, each name once.
-/
namespace HealthBoard

inductive Json where
  | null
  | bool (b : Bool)
  /-- A whole number; one that was read lies between `-2 ^ 63` and `2 ^ 64 - 1`. -/
  | int (n : Int)
  | float (x : Float)
  | str (s : String)
  | arr (items : List Json)
  | obj (members : List (String × Json))
  deriving Inhabited

namespace Json

/-- Puts a member where its name belongs; a member of the same name gives way. -/
def insertMember (name : String) (value : Json) : List (String × Json) → List (String × Json)
  | [] => [(name, value)]
  | (other, old) :: rest =>
    if name == other then (name, value) :: rest
    else if name < other then (name, value) :: (other, old) :: rest
    else (other, old) :: insertMember name value rest

/-- The member of a name, if the value is an object that has one. -/
def member? (name : String) : Json → Option Json
  | .obj members => members.lookup name
  | _ => none

end Json
end HealthBoard
