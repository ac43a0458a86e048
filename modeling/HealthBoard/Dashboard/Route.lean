/-
The places of the dashboard, and who may look at them.

A path is a place or it is none; how it is asked for is looked at afterwards.  Any web page may
ask: the headers that say so are on every answer, also on those that tell of a failure.  A page
that wants to know beforehand what it may ask is told so for every path alike.
-/
import HealthBoard.Dashboard.Response

namespace HealthBoard.Dashboard

inductive Route where
  | health
  | models
  | trend
  | overview
  | fingerprints
  | duplicates
  | users
  | report
  deriving DecidableEq

namespace Route

def path : Route → String
  | .health => "/health"
  | .models => "/v1/models"
  | .trend => "/v1/model_health/hourly"
  | .overview => "/v1/public/model_health"
  | .fingerprints => "/v1/fingerprints"
  | .duplicates => "/v1/fingerprints/duplicates"
  | .users => "/v1/fingerprints/users"
  | .report => "/v1/fingerprint/report"

def all : List Route :=
  [.health, .models, .trend, .overview, .fingerprints, .duplicates, .users, .report]

/-- The place of a path; the path has to match in every character. -/
def ofPath? (path : String) : Option Route := all.find? fun r => r.path == path

/-- The methods that a place answers to, as a header lists them. -/
def allowed : Route → String
  | .report => "POST"
  | _ => "GET,HEAD"

/-- Whether a place answers to a method. -/
def answersTo (r : Route) (method : String) : Bool :=
  match r with
  | .report => method == "POST"
  | _ => method == "GET" || method == "HEAD"

end Route

/-- The headers that are on every answer. -/
def openHeaders : List (String × String) :=
  [("access-control-allow-origin", "*"),
    ("vary", "origin, access-control-request-method, access-control-request-headers")]

/-- The headers of an answer about what may be asked. -/
def preflightHeaders : List (String × String) :=
  [("access-control-allow-methods", "GET,POST,OPTIONS"),
    ("access-control-allow-headers", "content-type")]

/-- The header that lists the methods of a place, if the path is one. -/
def allowHeader (route : Option Route) : List (String × String) :=
  (route.map fun r => ("allow", r.allowed)).toList

/-- What is asked for, and how: the place, or the answer if there is no more to look at. -/
def dispatch (method path : String) : Except Response Route :=
  let route := Route.ofPath? path
  if method == "OPTIONS" then .error ⟨200, preflightHeaders ++ allowHeader route, .empty⟩
  else match route with
    | none => .error ⟨404, [], .empty⟩
    | some r => if r.answersTo method then .ok r else .error ⟨405, allowHeader route, .empty⟩

/-- An answer as it goes out: with the common headers, and without a body if only headers were
asked for. -/
def finish (method : String) (r : Response) : Response :=
  { r with
    headers := r.headers ++ openHeaders
    body := if method == "HEAD" then .empty else r.body }

end HealthBoard.Dashboard
