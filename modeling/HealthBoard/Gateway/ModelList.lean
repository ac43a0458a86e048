/-
The list of enabled models, in every form that gateways give it.

Some give a plain list, some wrap it into a member called `models` or `data`, and some group the
models by channel or vendor.  A plain or a wrapped list is taken as it is.  Groups are thrown
together: each name once, in order, blank ones left out.
-/
import HealthBoard.Gateway.Fault
import HealthBoard.Json.Value

namespace HealthBoard.ModelList

/-- The texts of a list that holds nothing but texts. -/
def texts? : Json → Option (List String)
  | .arr items => items.mapM fun j =>
    match j with
    | .str s => some s
    | _ => none
  | _ => none

/-- A list wrapped into a member of the given name. -/
def wrapped? (name : String) (payload : Json) : Option (List String) :=
  payload.member? name >>= texts?

/-- The groups of an object whose members are all lists of texts. -/
def groups? : Json → Option (List (List String))
  | .obj members => members.mapM fun (_, j) => texts? j
  | _ => none

/-- Puts a name where it belongs, unless it is there. -/
def insertName (name : String) : List String → List String
  | [] => [name]
  | other :: rest =>
    if name == other then other :: rest
    else if name < other then name :: other :: rest
    else other :: insertName name rest

/-- All names of all groups: in order, each once, no blank ones. -/
def merged (groups : List (List String)) : List String :=
  (groups.flatten.filter fun n => !Text.isAllBlank n).foldl (fun names n => insertName n names) []

/-- The models of a payload; the first form that fits decides. -/
def ofJson (payload : Json) : Except GatewayFault (List String) :=
  match texts? payload <|> wrapped? "models" payload <|> wrapped? "data" payload <|>
      (groups? payload).map merged with
  | some names => .ok names
  | none => .error (.shape "unrecognized model list shape")

end HealthBoard.ModelList
