/-
What the places of the dashboard ask the gateway.

Six places show what the gateway knows.  They differ in the parameters they take, in the question
and in the view, and in nothing else: `answerAt_of_inquiry` says that whoever asks one of them with
good parameters is answered by `consult`, with the inquiry that the parameters make and with an
empty view that only depends on the place.  What is proved about `consult` thereby holds of all.
-/
import HealthBoard.Dashboard.Board
import HealthBoard.Proofs.Gateway.Exchange

namespace HealthBoard.Dashboard

/-- What is asked of the gateway at a place, with everything that the parameters say. -/
inductive Inquiry where
  | models
  | trend (modelName : String) (window : HourWindow)
  | overview (search : String)
  | fingerprints (keyword : String) (page : PageParams)
  | duplicates (page : PageParams)
  | users (visitorId : String) (ip : Option String) (page : PageParams)

namespace Inquiry

/-- What the gateway answers with. -/
def Answer : Inquiry → Type
  | .models => List String
  | .trend .. => List HourlyRecord
  | .overview _ => PublicHourlyPayload
  | .fingerprints .. | .users .. => Page FingerprintUser
  | .duplicates _ => Page DuplicateVisitor

def question : (i : Inquiry) → Question i.Answer
  | .models => .enabledModels
  | .trend modelName window => .hourlyHealth modelName window
  | .overview _ => .publicHourly
  | .fingerprints keyword page => .fingerprints keyword page.page page.size
  | .duplicates page => .duplicateVisitors page.page page.size
  | .users visitorId ip page => .usersByVisitor visitorId ip page.page page.size

/-- What is shown of an answer.  Only an overview can turn out to be none, for want of a window. -/
def view (thresholds : ThresholdSettings) : (i : Inquiry) → i.Answer → Except GatewayFault Json
  | .models, names => .ok (.arr (names.map .str))
  | .trend modelName window, records =>
    .ok (TrendView.ofRecords thresholds.forOperators modelName window records).toJson
  | .overview search, payload =>
    match HourWindow.between payload.startHour payload.endHour with
    | .ok window =>
      .ok (Overview.ofRecords thresholds.forPublic window payload.rows search).toJson
    | .error fault => .error (.shape ("window: " ++ fault.message))
  | .fingerprints .., page | .users .., page => .ok (page.show (·.toRow))
  | .duplicates _, page => .ok (Wire.toJson (α := Page DuplicateVisitor) page)

/-- The inquiry that the parameters of a request make, if they are good and the place has one. -/
def read? (now : Int64) (raw : Option (List UInt8)) : Route → Option Inquiry
  | .models => some .models
  | .trend => do
    let q ← (Query.read trendParameters raw).toOption
    let modelName ← trimmed? (q.text? "model_name")
    let window ← (windowOf q now).toOption
    return .trend modelName window
  | .overview => do
    let q ← (Query.read [("search", .text)] raw).toOption
    return .overview ((q.text? "search").getD "")
  | .fingerprints => do
    let q ← (Query.read (("keyword", .text) :: pageParameters) raw).toOption
    return .fingerprints ((q.text? "keyword").getD "") (pageOf q)
  | .duplicates => do
    let q ← (Query.read pageParameters raw).toOption
    return .duplicates (pageOf q)
  | .users => do
    let q ← (Query.read ([("visitor_id", .text), ("ip", .text)] ++ pageParameters) raw).toOption
    let visitorId ← trimmed? (q.text? "visitor_id")
    return .users visitorId ((q.text? "ip").map Text.trim) (pageOf q)
  | .health | .report => none

/-! ### What can go wrong with an inquiry -/

/-- No place asks a question that complains about anything but the form of the answer. -/
theorem question_onlyForm : ∀ i : Inquiry, i.question.OnlyForm
  | .models => Question.enabledModels_onlyForm
  | .trend .. => Question.hourlyHealth_onlyForm _ _
  | .overview _ => Question.publicHourly_onlyForm
  | .fingerprints .. => Question.fingerprints_onlyForm _ _ _
  | .duplicates _ => Question.duplicateVisitors_onlyForm _ _
  | .users .. => Question.usersByVisitor_onlyForm _ _ _ _

end Inquiry

/-! ### Reaching a place -/

theorem Route.ofPath?_path (route : Route) : Route.ofPath? route.path = some route := by
  cases route with
  | health => rfl
  | models => rfl
  | trend => rfl
  | overview => rfl
  | fingerprints => rfl
  | duplicates => rfl
  | users => rfl
  | report => rfl

theorem Route.eq_path_of_ofPath? {path : String} {route : Route}
    (h : Route.ofPath? path = some route) : path = route.path := by
  unfold Route.ofPath? at h
  have hpath := List.find?_some h
  exact (beq_iff_eq.mp hpath).symm

/-- A place that answers to a method is reached by it. -/
theorem dispatch_path {route : Route} {method : String} (hmethod : method ≠ "OPTIONS")
    (h : route.answersTo method = true) : dispatch method route.path = .ok route := by
  simp only [dispatch, beq_iff_eq, hmethod, if_false, Route.ofPath?_path, h, if_true]

/-- And a place is reached by no other path, and by no method that it does not answer to. -/
theorem dispatch_eq_ok_iff {route : Route} {method path : String} :
    dispatch method path = .ok route ↔
      method ≠ "OPTIONS" ∧ path = route.path ∧ route.answersTo method = true := by
  constructor
  · intro h
    simp only [dispatch, beq_iff_eq] at h
    split at h
    · cases h
    · rename_i hmethod
      split at h
      · cases h
      · rename_i r hroute
        split at h
        · rename_i hanswers
          cases h
          exact ⟨hmethod, Route.eq_path_of_ofPath? hroute, hanswers⟩
        · cases h
  · rintro ⟨hmethod, rfl, hanswers⟩
    exact dispatch_path hmethod hanswers

/-- Every place that has an inquiry answers to the method that reads. -/
theorem dispatch_get_of_read {now : Int64} {raw : Option (List UInt8)} {route : Route}
    {i : Inquiry} (h : Inquiry.read? now raw route = some i) :
    dispatch "GET" route.path = .ok route := by
  refine dispatch_path (by decide) ?_
  cases route with
  | report => cases h
  | _ => rfl

/-! ### Views of nothing -/

/-- A page without items. -/
def emptyPage : Json :=
  .obj [("page", .int 1), ("page_size", .int 0), ("total", .int 0), ("items", .arr [])]

/-- What a place shows if there is nothing to show. -/
def Route.emptyView : Route → Json
  | .models => .arr []
  | .trend =>
    .obj [("model_name", .str ""), ("start_hour", .int 0), ("end_hour", .int 0),
      ("hours", .arr []), ("rows", .arr []),
      ("stats", .obj [("avg_rate", .float 0), ("min_rate", .float 0), ("max_rate", .float 0),
        ("total_success", .int 0), ("total_slices", .int 0), ("total_requests", .int 0),
        ("error_requests", .int 0), ("success_requests", .int 0)])]
  | .overview =>
    .obj [("start_hour", .int 0), ("end_hour", .int 0), ("latest_hour", .null),
      ("hours", .arr []),
      ("stats", .obj [("total_models", .int 0), ("healthy_models", .int 0),
        ("warning_models", .int 0), ("critical_models", .int 0), ("overall_rate", .float 0),
        ("total_success_slices", .int 0), ("total_slices", .int 0)]),
      ("models", .arr [])]
  | .fingerprints | .duplicates | .users => emptyPage
  | .health | .report => .null

theorem emptyTrend_eq : TrendView.empty.toJson = Route.emptyView .trend := rfl

theorem emptyOverview_eq : Overview.empty.toJson = Route.emptyView .overview := rfl

theorem noRows_eq : noRows = emptyPage := rfl

theorem noVisitors_eq : Wire.toJson (Page.none : Page DuplicateVisitor) = emptyPage := rfl

/-! ### The answer at a place -/

variable {σ : Type} [KeyValueStore σ] {d : Dashboard} {w : World} {request : Request}
  {board : Board σ}

/-- Whatever parameters make an inquiry of, the query was read. -/
private theorem query_of_made {parameters : List (String × ParameterKind)}
    {raw : Option (List UInt8)} {make : Query → Option Inquiry} {i : Inquiry}
    (h : (Query.read parameters raw).toOption.bind make = some i) :
    ∃ q, Query.read parameters raw = .ok q ∧ make q = some i := by
  obtain ⟨q, hq, hmake⟩ := Option.bind_eq_some_iff.mp h
  exact ⟨q, eq_ok_of_toOption hq, hmake⟩

/-- And what was read is handed on. -/
private theorem read_bind {β : Type} {parameters : List (String × ParameterKind)}
    {raw : Option (List UInt8)} {q : Query} (hq : Query.read parameters raw = .ok q)
    (next : Query → Except Failure β) :
    ((Query.read parameters raw).mapError refused >>= next) = next q := by
  rw [hq]
  rfl

omit [KeyValueStore σ] in
private theorem models_of_none (hkept : board.models = none) :
    ∃ board', d.models w board
      = (d.consult w .enabledModels (Inquiry.view d.thresholds .models) (.arr []), board') := by
  simp only [models, hkept]
  cases d.gateway.ask .enabledModels w.exchange with
  | ok names => exact ⟨_, rfl⟩
  | error fault => exact ⟨_, rfl⟩

private theorem trend_of_read {raw : Option (List UInt8)} {i : Inquiry}
    (h : Inquiry.read? w.now raw .trend = some i) :
    d.trend w raw
      = .ok (d.consult w i.question (i.view d.thresholds) TrendView.empty.toJson) := by
  obtain ⟨q, hq, hmade⟩ := query_of_made h
  obtain ⟨modelName, hname, hmade⟩ := Option.bind_eq_some_iff.mp hmade
  obtain ⟨window, hwindow, hmade⟩ := Option.bind_eq_some_iff.mp hmade
  cases hmade
  rw [trend, read_bind hq]
  simp only [hname, eq_ok_of_toOption hwindow]
  rfl

private theorem overview_of_read {now : Int64} {raw : Option (List UInt8)} {i : Inquiry}
    (h : Inquiry.read? now raw .overview = some i) :
    d.overview w raw
      = .ok (d.consult w i.question (i.view d.thresholds) Overview.empty.toJson) := by
  obtain ⟨q, hq, hmade⟩ := query_of_made h
  cases hmade
  rw [overview, read_bind hq]
  rfl

private theorem fingerprints_of_read {now : Int64} {raw : Option (List UInt8)} {i : Inquiry}
    (h : Inquiry.read? now raw .fingerprints = some i) :
    d.fingerprints w raw
      = .ok (d.consult w i.question (i.view d.thresholds) noRows) := by
  obtain ⟨q, hq, hmade⟩ := query_of_made h
  cases hmade
  rw [fingerprints, read_bind hq]
  rfl

private theorem duplicates_of_read {now : Int64} {raw : Option (List UInt8)} {i : Inquiry}
    (h : Inquiry.read? now raw .duplicates = some i) :
    d.duplicates w raw
      = .ok (d.consult w i.question (i.view d.thresholds)
          (Wire.toJson (Page.none : Page DuplicateVisitor))) := by
  obtain ⟨q, hq, hmade⟩ := query_of_made h
  cases hmade
  rw [duplicates, read_bind hq]
  rfl

private theorem users_of_read {now : Int64} {raw : Option (List UInt8)} {i : Inquiry}
    (h : Inquiry.read? now raw .users = some i) :
    d.users w raw
      = .ok (d.consult w i.question (i.view d.thresholds) noRows) := by
  obtain ⟨q, hq, hmade⟩ := query_of_made h
  obtain ⟨visitorId, hid, hmade⟩ := Option.bind_eq_some_iff.mp hmade
  cases hmade
  rw [users, read_bind hq]
  simp only [hid]
  rfl

/--
**One way to be answered.**  A place that is asked with good parameters, and that has not kept what
it is asked for, consults the gateway: with the inquiry that the parameters make, and with an empty
view that the parameters have no part in.
-/
theorem answerAt_of_read {route : Route} {i : Inquiry}
    (hread : Inquiry.read? w.now request.query route = some i)
    (hkept : route = .models → board.models = none) :
    ∃ board', d.answerAt w request board route
      = .ok (d.consult w i.question (i.view d.thresholds) route.emptyView, board') := by
  cases route with
  | health => cases hread
  | report => cases hread
  | models =>
      cases hread
      obtain ⟨board', h⟩ := models_of_none (d := d) (w := w) (hkept rfl)
      exact ⟨board', congrArg Except.ok h⟩
  | trend =>
      refine ⟨board, ?_⟩
      rw [answerAt, trend_of_read hread, emptyTrend_eq]
      rfl
  | overview =>
      refine ⟨board, ?_⟩
      rw [answerAt, overview_of_read hread, emptyOverview_eq]
      rfl
  | fingerprints =>
      refine ⟨board, ?_⟩
      rw [answerAt, fingerprints_of_read hread, noRows_eq]
      rfl
  | duplicates =>
      refine ⟨board, ?_⟩
      rw [answerAt, duplicates_of_read hread, noVisitors_eq]
      rfl
  | users =>
      refine ⟨board, ?_⟩
      rw [answerAt, users_of_read hread, noRows_eq]
      rfl

/-! ### From the answer at a place to the answer to the request -/

theorem respond_of_response {response : Response}
    (h : dispatch request.method request.path = .error response) :
    d.respond w request board = (⟨finish request.method response, []⟩, board) := by
  rw [respond, answer, h]

theorem respond_of_answer {route : Route} {reply : Reply} {board' : Board σ}
    (h : dispatch request.method request.path = .ok route)
    (hanswer : d.answerAt w request board route = .ok (reply, board')) :
    d.respond w request board =
      (⟨finish request.method reply.response, reply.received⟩, board') := by
  rw [respond, answer, h]
  simp only [hanswer]

theorem respond_of_failure {route : Route} {failure : Failure}
    (h : dispatch request.method request.path = .ok route)
    (hanswer : d.answerAt w request board route = .error failure) :
    d.respond w request board = (⟨finish request.method failure.response, []⟩, board) := by
  rw [respond, answer, h]
  simp only [hanswer]

end HealthBoard.Dashboard
