/-
Answers of the dashboard, and the failures among them.

A failure of the caller is explained to the caller; one of the gateway is passed on in the
gateway's words or in general ones; and what went wrong inside the program is nobody's business
outside, so that it is answered in the same words whatever it was.
-/
import HealthBoard.Gateway.Envelope
import HealthBoard.Gateway.Fault

namespace HealthBoard

/-- What an answer carries. -/
inductive Body where
  | empty
  | json (value : Json)

/-- An answer. -/
structure Response where
  status : Nat
  headers : List (String × String)
  body : Body

/-- The header of an answer that carries JSON. -/
def jsonHeaders : List (String × String) := [("content-type", "application/json")]

def Response.json (status : Nat) (value : Json) : Response := ⟨status, jsonHeaders, .json value⟩

/-- An envelope around data that are already JSON. -/
def Envelope.toJson (e : Envelope Json) : Json :=
  .obj [("success", .bool e.success), ("message", .str e.message), ("data", e.data)]

/-- Why a request has no proper answer. -/
inductive Failure where
  | validation (message : String)
  | notFound (message : String)
  | database (message : String)
  | pool (message : String)
  | gateway (fault : GatewayFault)
  | internal (message : String)

namespace Failure

/-- The failure as it is logged. -/
def message : Failure → String
  | .validation message => "validation error: " ++ message
  | .notFound message => "not found: " ++ message
  | .database message => "database error: " ++ message
  | .pool message => "pool error: " ++ message
  | .gateway fault => "upstream error: " ++ fault.message
  | .internal message => "internal error: " ++ message

def status : Failure → Nat
  | .validation _ => 400
  | .notFound _ => 404
  | .gateway fault => fault.statusCode
  | .database _ | .pool _ | .internal _ => 500

/-- The failure as the caller is told. -/
def notice : Failure → String
  | .validation message => message
  | .notFound message => message
  | .gateway fault => fault.notice
  | .database _ | .pool _ | .internal _ => "internal server error"

/-- The answer: an envelope without data. -/
def response (f : Failure) : Response :=
  .json f.status (Envelope.failed f.notice .null).toJson

end Failure
end HealthBoard
