/-
What the gateway can be asked.

A question has a place at the gateway, parameters or a body, and a form that the answer has to
have.  Every question is asked once and answered in an envelope; what is in the envelope is looked
at by the question alone, so that each has its own complaints.
-/
import HealthBoard.Gateway.Envelope
import HealthBoard.Gateway.ModelList
import HealthBoard.Health.Window

namespace HealthBoard

inductive Method where
  | get
  | post
  deriving DecidableEq

def Method.name : Method → String
  | .get => "GET"
  | .post => "POST"

/-- A question whose answer has the type `α`. -/
structure Question (α : Type) where
  method : Method
  path : String
  parameters : List (String × String)
  /-- A text of JSON to be sent along. -/
  body : Option String
  /-- What the data of a successful answer mean. -/
  read : Json → Except GatewayFault α

namespace Question

/-- A question that is asked by its place and its parameters. -/
def get {α : Type} (path : String) (parameters : List (String × String))
    (read : Json → Except GatewayFault α) : Question α :=
  ⟨.get, path, parameters, none, read⟩

/-- Takes a value of a wire type out of data; a complaint begins with what the data should be. -/
def readAs (α : Type) [Wire α] (what : String) (data : Json) : Except GatewayFault α :=
  match (Wire.convert data : Except Json.Mismatch α) with
  | .ok a => .ok a
  | .error m => .error (.shape (what ++ ": " ++ m.message))

/-- An integer as a parameter. -/
def number (n : Int64) : String := Decimal.text n.toInt

/-- The records of a model within a window. -/
def hourlyHealth (modelName : String) (window : HourWindow) : Question (List HourlyRecord) :=
  get "/api/model_health/hourly"
    [("model_name", modelName), ("start_hour", number window.start),
      ("end_hour", number window.stop)]
    fun data =>
      match data with
      | .arr _ => readAs (List HourlyRecord) "hourly records" data
      | _ => .error (.shape "expected an array of hourly records")

/-- The records of all models within the last day. -/
def publicHourly : Question PublicHourlyPayload :=
  get "/api/public/model_health/hourly_last24h" [] fun data =>
    match data with
    | .obj _ => readAs PublicHourlyPayload "public hourly payload" data
    | _ => .error (.shape "expected an object with start_hour, end_hour and rows")

/-- The names of the enabled models. -/
def enabledModels : Question (List String) :=
  get "/api/channel/models_enabled" [] ModelList.ofJson

/-- Has a visitor id recorded; whatever comes back with a success is fine. -/
def recordFingerprint (visitorId : String) : Question Unit :=
  ⟨.post, "/api/fingerprint/record", [], some (Wire.encode (⟨visitorId⟩ : RecordRequest)),
    fun _ => .ok ()⟩

/-- A page; nothing at all stands for the page of a listing that was not given. -/
def readPage (α : Type) [Wire α] (data : Json) : Except GatewayFault (Page α) :=
  match data with
  | .null => .ok .none
  | .obj _ => readAs (Page α) "page" data
  | _ => .error (.shape "expected a page object")

/-- Which page is asked for, as parameters. -/
def pageParameters (page size : Int64) : List (String × String) :=
  [("p", number page), ("page_size", number size)]

/-- Recorded fingerprints: all of them, or those that a keyword finds. -/
def fingerprints (keyword : String) (page size : Int64) : Question (Page FingerprintUser) :=
  let keyword := Text.trim keyword
  get (if keyword == "" then "/api/fingerprint/" else "/api/fingerprint/search")
    (pageParameters page size ++ [("keyword", keyword)]) (readPage FingerprintUser)

/-- Visitor ids that more than one user has. -/
def duplicateVisitors (page size : Int64) : Question (Page DuplicateVisitor) :=
  get "/api/fingerprint/duplicates" (pageParameters page size) (readPage DuplicateVisitor)

/-- The users of a visitor id, perhaps only those of one address. -/
def usersByVisitor (visitorId : String) (ip : Option String) (page size : Int64) :
    Question (Page FingerprintUser) :=
  let ip := match ip with
    | some ip => if ip == "" then [] else [("ip", ip)]
    | none => []
  get "/api/fingerprint/users"
    (("visitor_id", visitorId) :: pageParameters page size ++ ip) (readPage FingerprintUser)

end Question
end HealthBoard
