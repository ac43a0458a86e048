/-
The parameters of a request, each of the type that its route wants.

The pairs of the query are looked at from left to right.  A pair that no parameter has the name of
does not count; one whose parameter was given before is refused, and so is a number that does not
read as one.  The first refusal is the answer, whatever comes after it.
-/
import HealthBoard.Decimal.Integer
import HealthBoard.Url.Form

namespace HealthBoard.Dashboard

/-- What a parameter holds. -/
inductive ParameterKind where
  | text
  | integer
  deriving DecidableEq

/-- Why a query is refused. -/
inductive QueryFault where
  | repeated (name : String)
  | badInteger (name : String) (fault : Decimal.IntegerFault)
  deriving DecidableEq

def QueryFault.message (f : QueryFault) : String :=
  "Failed to deserialize query string: " ++ match f with
    | .repeated name => "duplicate field `" ++ name ++ "`"
    | .badInteger name fault => name ++ ": " ++ fault.message

/-- The parameters that were given. -/
structure Query where
  texts : List (String × String) := []
  integers : List (String × Int64) := []

namespace Query

/-- The text of a parameter. -/
def text? (q : Query) (name : String) : Option String := q.texts.lookup name

/-- The number of a parameter. -/
def integer? (q : Query) (name : String) : Option Int64 := q.integers.lookup name

/-- The query with another pair. -/
def add (parameters : List (String × ParameterKind)) (q : Query) (pair : String × String) :
    Except QueryFault Query :=
  let (name, value) := pair
  match parameters.lookup name with
  | none => .ok q
  | some .text =>
    if (q.text? name).isSome then .error (.repeated name)
    else .ok { q with texts := (name, value) :: q.texts }
  | some .integer =>
    if (q.integer? name).isSome then .error (.repeated name)
    else match Decimal.readInteger value with
      | .ok n => .ok { q with integers := (name, n) :: q.integers }
      | .error fault => .error (.badInteger name fault)

/-- Reads a query, of which there may be none. -/
def read (parameters : List (String × ParameterKind)) (raw : Option (List UInt8)) :
    Except QueryFault Query :=
  (Url.Form.decode (raw.getD [])).foldlM (add parameters) {}

end Query
end HealthBoard.Dashboard
