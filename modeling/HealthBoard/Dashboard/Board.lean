/-
The dashboard as a whole.

An answer depends on what was asked, on what the dashboard keeps between requests, and on what the
world does meanwhile: the time, the database, and above all the gateway.  Those are arguments, so
that a run of requests is a recursion over a list.

Kept are the list of enabled models, once it was had, and what the reporting throttle keeps.
Health figures are never kept.  Whatever the gateway does, there is something to show: its data,
or an empty view with a line about what went wrong.
-/
import HealthBoard.Dashboard.Query
import HealthBoard.Dashboard.ReportBody
import HealthBoard.Dashboard.Route
import HealthBoard.Dashboard.View
import HealthBoard.Fingerprint.Reporting
import HealthBoard.Settings.Loading

namespace HealthBoard

/-- What a dashboard is made of and does not change. -/
structure Dashboard where
  gateway : Gateway
  thresholds : ThresholdSettings := {}
  /-- Once the list of models was had, it is kept. -/
  keepsModels : Bool := true
  /-- `none` if this machine is not reported. -/
  reporting : Option Reporting := none

/-- What a dashboard keeps from one request to the next. -/
structure Board (σ : Type) where
  models : Option (List String) := none
  store : σ

namespace Dashboard

/-- A request to the dashboard. -/
structure Request where
  method : String := "GET"
  path : String
  query : Option (List UInt8) := none
  contentType : Option String := none
  body : List UInt8 := []

/-- What the world does while a request is answered. -/
structure World where
  /-- The time, in seconds since the epoch. -/
  now : Int64
  /-- The clock of the throttle at the start of a report. -/
  clock : Int64
  /-- That clock after a successful upload. -/
  later : Int64
  /-- What comes of looking at the machine for a report. -/
  collected : Except CollectionFault String
  /-- What comes of a request to the gateway. -/
  exchange : Exchange
  /-- The keys that the throttle cannot read or write. -/
  faults : Throttle.Faults := {}
  /-- The database answers. -/
  databaseAnswers : Bool

/-- An answer, and what the gateway received before it was given. -/
structure Reply where
  response : Response
  received : List GatewayRequest := []

/-! ### What the gateway gives, or an empty view -/

def success (data : Json) : Response := .json 200 (Envelope.ok data).toJson

/-- The answer to a failure of the gateway: an empty view and a notice. -/
def degraded (fault : GatewayFault) (empty : Json) : Response :=
  .json fault.statusCode (Envelope.failed fault.notice empty).toJson

/-- Asks the gateway, and shows what it gives. -/
def consult {α : Type} (d : Dashboard) (w : World) (q : Question α)
    (view : α → Except GatewayFault Json) (empty : Json) : Reply :=
  { response := match (d.gateway.ask q w.exchange).bind view with
      | .ok data => success data
      | .error fault => degraded fault empty
    received := d.gateway.received q w.exchange }

/-- What parameters are refused with. -/
def refused (f : QueryFault) : Failure := .validation f.message

/-- A text parameter without its outer white space, unless nothing is left of it. -/
def trimmed? (text : Option String) : Option String :=
  (text.map Text.trim).filter (· != "")

/-- A number with the given bounds put on it. -/
def bounded (least greatest n : Int64) : Int64 :=
  if n.toInt < least.toInt then least else if greatest.toInt < n.toInt then greatest else n

/-! ### The places -/

def health (w : World) : Response :=
  .json 200 (.obj [("status", .str (if w.databaseAnswers then "ok" else "degraded")),
    ("db_ok", .bool w.databaseAnswers)])

def trendParameters : List (String × ParameterKind) :=
  [("model_name", .text), ("start_hour", .integer), ("end_hour", .integer),
    ("start_ts", .integer), ("end_ts", .integer), ("hours", .integer)]

/-- The window asked for: between two hours, or around two times, or the last few hours. -/
def windowOf (q : Query) (now : Int64) : Except Failure HourWindow :=
  let made := match q.integer? "start_hour", q.integer? "end_hour", q.integer? "start_ts",
      q.integer? "end_ts" with
    | some start, some stop, none, none => some (HourWindow.between start stop)
    | none, none, some first, some last => some (HourWindow.covering first last)
    | none, none, none, none =>
      let hours := (q.integer? "hours").getD defaultHours
      some (HourWindow.lastHours now (bounded 1 (Int64.ofInt greatestSpan) hours))
    | _, _, _, _ => none
  match made with
  | some (.ok window) => .ok window
  | some (.error fault) => .error (.validation fault.message)
  | none => .error (.validation "give either start_hour and end_hour or start_ts and end_ts")

/-- One model through a window, for the operators. -/
def trend (d : Dashboard) (w : World) (raw : Option (List UInt8)) : Except Failure Reply := do
  let q ← (Query.read trendParameters raw).mapError refused
  match trimmed? (q.text? "model_name") with
  | none => throw (.validation "model_name is required")
  | some name =>
    let window ← windowOf q w.now
    return d.consult w (.hourlyHealth name window)
      (fun records =>
        .ok (TrendView.ofRecords d.thresholds.forOperators name window records).toJson)
      TrendView.empty.toJson

/-- All models through the last day, for everybody. -/
def overview (d : Dashboard) (w : World) (raw : Option (List UInt8)) : Except Failure Reply := do
  let q ← (Query.read [("search", .text)] raw).mapError refused
  return d.consult w .publicHourly
    (fun payload =>
      match HourWindow.between payload.startHour payload.endHour with
      | .ok window =>
        .ok (Overview.ofRecords d.thresholds.forPublic window payload.rows
          ((q.text? "search").getD "")).toJson
      | .error fault => .error (.shape ("window: " ++ fault.message)))
    Overview.empty.toJson

def pageParameters : List (String × ParameterKind) := [("p", .integer), ("page_size", .integer)]

/-- The page asked for. -/
def pageOf (q : Query) : PageParams := ⟨q.integer? "p", q.integer? "page_size"⟩

/-- Users, each with the names of role and status. -/
def userRows (p : Page FingerprintUser) : Except GatewayFault Json := .ok (p.show (·.toRow))

def noRows : Json := (Page.none : Page FingerprintUser).show (·.toRow)

/-- All recorded fingerprints, or those that a keyword finds. -/
def fingerprints (d : Dashboard) (w : World) (raw : Option (List UInt8)) :
    Except Failure Reply := do
  let q ← (Query.read (("keyword", .text) :: pageParameters) raw).mapError refused
  let page := pageOf q
  let keyword := (q.text? "keyword").getD ""
  return d.consult w (.fingerprints keyword page.page page.size) userRows noRows

/-- Visitor ids that several users have. -/
def duplicates (d : Dashboard) (w : World) (raw : Option (List UInt8)) : Except Failure Reply := do
  let q ← (Query.read pageParameters raw).mapError refused
  let page := pageOf q
  return d.consult w (.duplicateVisitors page.page page.size)
    (fun p => .ok (Wire.toJson p)) (Wire.toJson (Page.none : Page DuplicateVisitor))

/-- The users of a visitor id. -/
def users (d : Dashboard) (w : World) (raw : Option (List UInt8)) : Except Failure Reply := do
  let parameters := [("visitor_id", .text), ("ip", .text)] ++ pageParameters
  let q ← (Query.read parameters raw).mapError refused
  match trimmed? (q.text? "visitor_id") with
  | none => throw (.validation "visitor_id is required")
  | some visitorId =>
    let page := pageOf q
    return d.consult w
      (.usersByVisitor visitorId ((q.text? "ip").map Text.trim) page.page page.size) userRows noRows

/-! ### What is kept -/

variable {σ : Type}

/-- The enabled models: those that are kept, or else those that the gateway gives. -/
def models (d : Dashboard) (w : World) (board : Board σ) : Reply × Board σ :=
  let listed (names : List String) : Json := .arr (names.map .str)
  match board.models with
  | some names => (⟨success (listed names), []⟩, board)
  | none =>
    let reply := d.consult w .enabledModels (fun names => .ok (listed names)) (.arr [])
    match d.gateway.ask .enabledModels w.exchange with
    | .ok names => (reply, if d.keepsModels then { board with models := some names } else board)
    | .error _ => (reply, board)

/-- What a report sees of the world. -/
def World.moment (w : World) : Reporting.Moment :=
  ⟨w.clock, w.later, w.collected, w.exchange, w.faults⟩

/-- The visitor id, if there is one, as it is answered. -/
def reportView (result : Except CollectionFault (Option String)) : Json :=
  .obj [("visitor_id", match result with
    | .ok (some id) => .str id
    | _ => .null)]

/-- Reports this machine; a collection that fails is answered without an id. -/
def report [KeyValueStore σ] (d : Dashboard) (w : World) (request : Request) (board : Board σ) :
    Except Failure (Reply × Board σ) := do
  let order ← (readReportOrder request.contentType request.body).mapError fun f =>
    Failure.validation f.message
  match d.reporting with
  | none => throw (.notFound "fingerprint reporting is disabled")
  | some r =>
    let o := r.report order.force w.moment board.store
    return (⟨success (reportView o.result), r.received w.moment o.acts⟩,
      { board with store := o.store })

/-! ### Requests -/

/-- The answer at a place. -/
def answerAt [KeyValueStore σ] (d : Dashboard) (w : World) (request : Request) (board : Board σ) :
    Route → Except Failure (Reply × Board σ)
  | .health => .ok (⟨health w, []⟩, board)
  | .models => .ok (d.models w board)
  | .trend => (d.trend w request.query).map (·, board)
  | .overview => (d.overview w request.query).map (·, board)
  | .fingerprints => (d.fingerprints w request.query).map (·, board)
  | .duplicates => (d.duplicates w request.query).map (·, board)
  | .users => (d.users w request.query).map (·, board)
  | .report => d.report w request board

/-- The answer to a request, without what all answers have in common. -/
def answer [KeyValueStore σ] (d : Dashboard) (w : World) (request : Request) (board : Board σ) :
    Reply × Board σ :=
  match dispatch request.method request.path with
  | .error response => (⟨response, []⟩, board)
  | .ok route =>
    match d.answerAt w request board route with
    | .ok answer => answer
    | .error failure => (⟨failure.response, []⟩, board)

/-- The answer to a request. -/
def respond [KeyValueStore σ] (d : Dashboard) (w : World) (request : Request) (board : Board σ) :
    Reply × Board σ :=
  let (reply, board) := d.answer w request board
  ({ reply with response := finish request.method reply.response }, board)

/-- The answers to requests, one after the other. -/
def run [KeyValueStore σ] (d : Dashboard) : Board σ → List (World × Request) → List Reply
  | _, [] => []
  | board, (w, request) :: rest =>
    let (reply, board) := d.respond w request board
    reply :: run d board rest

/-! ### Making one -/

/-- A thousand years, in seconds. -/
def greatestLifetime : Nat := 1000 * 365 * 24 * 3600

/-- Why there is no dashboard for some settings. -/
inductive MakingFault where
  | cacheLifetime
  deriving DecidableEq

def MakingFault.message : MakingFault → String
  | .cacheLifetime => "time_to_live is longer than 1000 years"

/-- Whether the list of models is kept for the given time; time does not pass otherwise. -/
def keeping (seconds : UInt64) : Except MakingFault Bool :=
  if greatestLifetime < seconds.toNat then .error .cacheLifetime else .ok (seconds != 0)

end Dashboard

/-- The gateway of the settings. -/
def GatewaySettings.gateway (s : GatewaySettings) : Gateway :=
  ⟨s.baseUrl, s.accessToken, s.userId⟩

/-- How the settings have a machine reported, if they do. -/
def Settings.reporting? (s : Settings) : Option Reporting :=
  if s.fingerprint.enabled then some ⟨s.gateway.gateway, s.fingerprint.reportInterval⟩ else none

/-- The dashboard of the settings. -/
def Settings.dashboard (s : Settings) : Except Dashboard.MakingFault Dashboard := do
  return { gateway := s.gateway.gateway
           thresholds := s.thresholds
           keepsModels := ← Dashboard.keeping s.gateway.modelsCacheSeconds
           reporting := s.reporting? }

end HealthBoard
