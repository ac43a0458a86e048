/-
Reporting this machine through the dashboard.

A request to report gives an order, or it is refused.  An order is passed to the throttle, and
whatever comes of that is answered as a success: an upload that fails, a store that cannot be read
or written and a collection that fails all end in an answer, the last of them in one without an id.
A refused request gets no further than its own body.

Over a run, then, the store is what one throttle makes of the orders alone.  `Ordered` picks the
orders out of a run, and `store_after` is that statement; what it rests on is that no other request
has a part in the store (`store_respond_of_other`).
-/
import HealthBoard.Proofs.Dashboard.Refusal
import HealthBoard.Proofs.Dashboard.Run
import HealthBoard.Proofs.Fingerprint.Run
import HealthBoard.Proofs.Json.Records

namespace HealthBoard.Dashboard

/-- The request asks for a report. -/
def AsksReport (request : Request) : Prop :=
  request.path = "/v1/fingerprint/report" ∧ request.method = "POST"

/-- The body is announced as JSON and is longer than what is read of one. -/
def TooLong (request : Request) : Prop :=
  ∃ contentType, request.contentType = some contentType ∧ saysJson contentType = true ∧
    2097152 < request.body.length

/-- The body is announced as JSON and is no order. -/
def Malformed (request : Request) : Prop :=
  ∃ contentType complaint, request.contentType = some contentType ∧ saysJson contentType = true ∧
    (Wire.decode request.body : Except Json.Complaint ReportOrder) = .error complaint

/-- The order that the request gives, which insists on an upload or does not. -/
inductive Orders (request : Request) : (force : Bool) → Prop where
  /-- Without a content type nothing is said, whatever the body is. -/
  | silently (htype : request.contentType = none) : Orders request false
  | told {contentType : String} {order : ReportOrder}
      (htype : request.contentType = some contentType)
      (hjson : saysJson contentType = true) (hlength : request.body.length ≤ 2097152)
      (hbody : (Wire.decode request.body : Except Json.Complaint ReportOrder) = .ok order) :
      Orders request order.force

/-- The answer to an order that was carried out, with the id if there is one. -/
def reportAnswer (visitorId : Option String) : Response :=
  { status := 200
    headers := jsonHeaders ++ openHeaders
    body := .json (.obj [("success", .bool true), ("message", .str ""),
      ("data", .obj [("visitor_id", match visitorId with
        | some id => .str id
        | none => .null)])]) }

/-- The answer to an order where no machine is reported. -/
def disabledAnswer : Response :=
  { status := 404
    headers := jsonHeaders ++ openHeaders
    body := .json (.obj [("success", .bool false),
      ("message", .str "fingerprint reporting is disabled"), ("data", .null)]) }

/-- The id that the throttle answered with; it has none if the collection failed. -/
def answeredId : Except CollectionFault (Option String) → Option String
  | .ok visitorId => visitorId
  | .error _ => none

/-! ### Bodies -/

variable {request : Request}

theorem Orders.read_eq {force : Bool} (h : Orders request force) :
    ∃ order, readReportOrder request.contentType request.body = .ok order ∧
      order.force = force := by
  cases h with
  | silently htype =>
      refine ⟨{}, ?_, rfl⟩
      rw [htype]
      rfl
  | told htype hjson hlength hbody =>
      refine ⟨_, ?_, rfl⟩
      rw [htype, readReportOrder, greatestBody, if_pos hjson, if_neg (Nat.not_lt.mpr hlength),
        hbody]

theorem orders_of_read {order : ReportOrder}
    (h : readReportOrder request.contentType request.body = .ok order) :
    Orders request order.force := by
  unfold readReportOrder at h
  cases htype : request.contentType with
  | none =>
      simp only [htype] at h
      cases h
      exact .silently htype
  | some contentType =>
      simp only [htype] at h
      split at h
      · rename_i hjson
        split at h
        · cases h
        · rename_i hlength
          cases hbody : (Wire.decode request.body : Except Json.Complaint ReportOrder) with
          | error complaint =>
              rw [hbody] at h
              cases h
          | ok told =>
              rw [hbody] at h
              cases h
              exact .told htype hjson (Nat.not_lt.mp hlength) hbody
      · cases h

theorem TooLong.read_eq (h : TooLong request) :
    readReportOrder request.contentType request.body = .error .tooLong := by
  obtain ⟨contentType, htype, hjson, hlength⟩ := h
  rw [htype, readReportOrder, greatestBody, if_pos hjson, if_pos hlength]

theorem Malformed.read_eq (h : Malformed request) :
    ∃ fault, readReportOrder request.contentType request.body = .error fault := by
  obtain ⟨contentType, complaint, htype, hjson, hbody⟩ := h
  by_cases hlength : 2097152 < request.body.length
  · exact ⟨.tooLong, TooLong.read_eq ⟨contentType, htype, hjson, hlength⟩⟩
  · refine ⟨.malformed request.body complaint, ?_⟩
    rw [htype, readReportOrder, greatestBody, if_pos hjson, if_neg hlength, hbody]

/-- Whatever is no order is refused. -/
theorem exists_fault_of_not_orders (h : ∀ force, ¬ Orders request force) :
    ∃ fault, readReportOrder request.contentType request.body = .error fault := by
  cases hread : readReportOrder request.contentType request.body with
  | error fault => exact ⟨fault, rfl⟩
  | ok order => exact absurd (orders_of_read hread) (h order.force)

/-! ### One request -/

variable {σ : Type} [KeyValueStore σ] {d : Dashboard} {w : World} {board : Board σ}

theorem dispatch_eq_report_iff :
    dispatch request.method request.path = .ok .report ↔ AsksReport request := by
  rw [dispatch_eq_ok_iff]
  constructor
  · rintro ⟨-, hpath, hmethod⟩
    exact ⟨hpath, beq_iff_eq.mp hmethod⟩
  · rintro ⟨hpath, hmethod⟩
    refine ⟨?_, hpath, ?_⟩
    · rw [hmethod]
      decide
    · rw [hmethod]
      rfl

/-- **A request that is refused ends there**: nothing of the world or the board has a part in it. -/
theorem respond_refused {fault : BodyFault} (hasks : AsksReport request)
    (hread : readReportOrder request.contentType request.body = .error fault) :
    d.respond w request board = (⟨explanation fault.message, []⟩, board) := by
  have hanswer : d.answerAt w request board .report = .error (.validation fault.message) := by
    rw [answerAt, report, hread]
    rfl
  rw [respond_of_failure (dispatch_eq_report_iff.mpr hasks) hanswer, hasks.2]
  rfl

/-- So does an order where no machine is reported. -/
theorem respond_disabled {force : Bool} (hasks : AsksReport request) (hoff : d.reporting = none)
    (horder : Orders request force) :
    d.respond w request board = (⟨disabledAnswer, []⟩, board) := by
  obtain ⟨order, hread, -⟩ := horder.read_eq
  have hanswer : d.answerAt w request board .report
      = .error (.notFound "fingerprint reporting is disabled") := by
    rw [answerAt, report, hread, hoff]
    rfl
  rw [respond_of_failure (dispatch_eq_report_iff.mpr hasks) hanswer, hasks.2]
  rfl

theorem success_reportView (result : Except CollectionFault (Option String)) :
    finish "POST" (success (reportView result)) = reportAnswer (answeredId result) := by
  cases result with
  | error fault => rfl
  | ok visitorId =>
      cases visitorId with
      | none => rfl
      | some id => rfl

/-- **An order is carried out by the throttle, and answered as a success whatever comes of it.** -/
theorem respond_ordered {r : Reporting} {force : Bool} (hasks : AsksReport request)
    (hon : d.reporting = some r) (horder : Orders request force) :
    d.respond w request board =
      (⟨reportAnswer (answeredId (r.report force w.moment board.store).result),
          r.received w.moment (r.report force w.moment board.store).acts⟩,
        { board with store := (r.report force w.moment board.store).store }) := by
  obtain ⟨order, hread, rfl⟩ := horder.read_eq
  have hanswer : d.answerAt w request board .report
      = .ok (⟨success (reportView (r.report order.force w.moment board.store).result),
          r.received w.moment (r.report order.force w.moment board.store).acts⟩,
        { board with store := (r.report order.force w.moment board.store).store }) := by
    rw [answerAt, report, hread, hon]
    rfl
  rw [respond_of_answer (dispatch_eq_report_iff.mpr hasks) hanswer, hasks.2, success_reportView]

/-! ### Any other request -/

omit [KeyValueStore σ] in
private theorem store_of_map {x : Except Failure Reply} {answered : Reply × Board σ}
    (h : x.map (·, board) = .ok answered) : answered.2.store = board.store := by
  cases x with
  | error failure => cases h
  | ok reply =>
      cases h
      rfl

omit [KeyValueStore σ] in
theorem store_models : (d.models w board).2.store = board.store := by
  unfold models
  split
  · rfl
  · simp only
    split
    · simp only
      split <;> rfl
    · rfl

theorem store_answerAt {route : Route} {answered : Reply × Board σ} (hroute : route ≠ .report)
    (h : d.answerAt w request board route = .ok answered) :
    answered.2.store = board.store := by
  cases route with
  | report => exact absurd rfl hroute
  | health =>
      cases h
      rfl
  | models =>
      cases h
      exact store_models
  | trend => exact store_of_map h
  | overview => exact store_of_map h
  | fingerprints => exact store_of_map h
  | duplicates => exact store_of_map h
  | users => exact store_of_map h

/-- **Only a request to report has a part in what the throttle keeps.** -/
theorem store_respond_of_other (hasks : ¬ AsksReport request) :
    (d.respond w request board).2.store = board.store := by
  cases hdispatch : dispatch request.method request.path with
  | error response => rw [respond_of_response hdispatch]
  | ok route =>
      cases hanswer : d.answerAt w request board route with
      | error failure => rw [respond_of_failure hdispatch hanswer]
      | ok answered =>
          have hroute : route ≠ .report := by
            intro heq
            rw [heq] at hdispatch
            exact hasks (dispatch_eq_report_iff.mp hdispatch)
          have hstore : answered.2.store = board.store := store_answerAt hroute hanswer
          rw [respond_of_answer hdispatch hanswer]
          exact hstore

/-! ### A run of requests -/

/-- What the orders among some requests have the throttle do. -/
inductive Ordered (r : Reporting) : List (World × Request) → List Throttle.Step → Prop where
  | nil : Ordered r [] []
  | order {w : World} {request : Request} {force : Bool} {rest : List (World × Request)}
      {calls : List Throttle.Step} (hasks : AsksReport request) (horder : Orders request force)
      (hrest : Ordered r rest calls) :
      Ordered r ((w, request) :: rest) (.report force (r.world w.moment) :: calls)
  | refused {w : World} {request : Request} {rest : List (World × Request)}
      {calls : List Throttle.Step} (hasks : AsksReport request)
      (hnone : ∀ force, ¬ Orders request force) (hrest : Ordered r rest calls) :
      Ordered r ((w, request) :: rest) calls
  | other {w : World} {request : Request} {rest : List (World × Request)}
      {calls : List Throttle.Step} (hasks : ¬ AsksReport request) (hrest : Ordered r rest calls) :
      Ordered r ((w, request) :: rest) calls

/-- Every run has its orders. -/
theorem exists_ordered (r : Reporting) (steps : List (World × Request)) :
    ∃ calls, Ordered r steps calls := by
  induction steps with
  | nil => exact ⟨[], .nil⟩
  | cons first rest ih =>
      obtain ⟨w, request⟩ := first
      obtain ⟨calls, hcalls⟩ := ih
      by_cases hasks : AsksReport request
      · by_cases horder : ∃ force, Orders request force
        · obtain ⟨force, horder⟩ := horder
          exact ⟨_, .order hasks horder hcalls⟩
        · exact ⟨calls, .refused hasks (fun force h => horder ⟨force, h⟩) hcalls⟩
      · exact ⟨calls, .other hasks hcalls⟩

/-- **The store after a run is what one throttle makes of the orders in it.** -/
theorem store_after {r : Reporting} (hon : d.reporting = some r)
    {steps : List (World × Request)} {calls : List Throttle.Step} (h : Ordered r steps calls) :
    ∀ {board : Board σ},
      (d.after board steps).store = Throttle.after r.interval board.store calls := by
  induction h with
  | nil =>
      intro board
      rfl
  | order hasks horder hrest ih =>
      intro board
      rw [after_cons, ih, respond_ordered hasks hon horder]
      rfl
  | refused hasks hnone hrest ih =>
      intro board
      obtain ⟨fault, hread⟩ := exists_fault_of_not_orders hnone
      rw [after_cons, ih, respond_refused hasks hread]
  | other hasks hrest ih =>
      intro board
      rw [after_cons, ih, store_respond_of_other hasks]

/--
The request ends with its body: whoever asks is answered like this, whatever the machine, the
gateway, the clock and the board are like, and nothing is looked at, sent or kept.
-/
structure EndsAtBody (d : Dashboard) (request : Request) (reply : Reply)
    (before later : Board σ) : Prop where
  received : reply.received = []
  kept : later = before
  always : ∀ (w : World) (board : Board σ), d.respond w request board = (reply, board)

/-- The throttle is called once, in the store that the orders before have left. -/
structure CallsThrottle (r : Reporting) (force : Bool) (w : World) (store : σ) (reply : Reply)
    (later : Board σ) : Prop where
  /-- The answer is a success with the id that the throttle answered, or without one. -/
  response : reply.response
    = reportAnswer (answeredId (Throttle.report r.interval force (r.world w.moment) store).result)
  /-- What is sent are the uploads of the throttle. -/
  received : reply.received
    = r.received w.moment (Throttle.report r.interval force (r.world w.moment) store).acts
  store : later.store = (Throttle.report r.interval force (r.world w.moment) store).store

/--
**Reports are answered by one throttle, and its failures are none of the caller's.**  At any point
of a run, a request to report whose body is announced as JSON and is no order, or is too long to be
read, is explained to the caller and goes no further.  Every order is answered: where no machine is
reported, by saying so and nothing else; and else with success and with what the throttle answers,
which is called in the store that the orders before have left.
-/
theorem run_reports (d : Dashboard) (board : Board σ) (past future : List (World × Request))
    (w : World) (request : Request) (hasks : AsksReport request) :
    ∃ reply, (d.run board (past ++ (w, request) :: future))[past.length]? = some reply ∧
      (Malformed request ∨ TooLong request →
        (∃ message, reply.response = explanation message) ∧
        EndsAtBody d request reply (d.after board past)
          (d.after board (past ++ [(w, request)]))) ∧
      ∀ force, Orders request force →
        (d.reporting = none →
          reply.response = disabledAnswer ∧
          EndsAtBody d request reply (d.after board past)
            (d.after board (past ++ [(w, request)]))) ∧
        ∀ r, d.reporting = some r →
          (∃ calls, Ordered r past calls) ∧
          ∀ calls, Ordered r past calls →
            CallsThrottle r force w (Throttle.after r.interval board.store calls) reply
              (d.after board (past ++ [(w, request)])) := by
  have hlater : d.after board (past ++ [(w, request)])
      = (d.respond w request (d.after board past)).2 := by
    rw [after_append, after_cons, after_nil]
  refine ⟨_, run_getElem?, ?_, ?_⟩
  · intro hrefused
    obtain ⟨fault, hread⟩ : ∃ fault,
        readReportOrder request.contentType request.body = .error fault :=
      hrefused.elim Malformed.read_eq fun hlong => ⟨.tooLong, hlong.read_eq⟩
    have hrespond : ∀ (w : World) (board : Board σ),
        d.respond w request board = (⟨explanation fault.message, []⟩, board) :=
      fun _ _ => respond_refused hasks hread
    rw [hlater, hrespond]
    exact ⟨⟨_, rfl⟩, rfl, rfl, hrespond⟩
  · intro force horder
    constructor
    · intro hoff
      have hrespond : ∀ (w : World) (board : Board σ),
          d.respond w request board = (⟨disabledAnswer, []⟩, board) :=
        fun _ _ => respond_disabled hasks hoff horder
      rw [hlater, hrespond]
      exact ⟨rfl, rfl, rfl, hrespond⟩
    · intro r hon
      refine ⟨exists_ordered r past, ?_⟩
      intro calls hcalls
      rw [hlater, respond_ordered hasks hon horder, ← store_after hon hcalls]
      exact ⟨rfl, rfl, rfl⟩

/-- A dashboard that has its machine reported once an hour. -/
def reportingDashboard : Dashboard :=
  { sampleDashboard with reporting := some ⟨sampleDashboard.gateway, Throttle.defaultInterval⟩ }

/-- A request to report with a body that is announced as JSON. -/
def reportRequest (body : String) : Request :=
  { method := "POST", path := "/v1/fingerprint/report"
    contentType := some "Application/JSON; charset=utf-8", body := bytesOf body }

/-- The machine shows its id, but the gateway cannot be reached and the id cannot be written. -/
def cutOffWorld : World :=
  { worldOf .unreachable with
    collected := .ok "fresh"
    faults := { reads := [Throttle.lastReportKey], writes := [Throttle.visitorIdKey] } }

/-- A body that is cut off, an order that nothing can be done for, and one on a machine that shows
nothing of itself. -/
def troubledReports : List (World × Request) :=
  [(cutOffWorld, reportRequest "\x7b"), (cutOffWorld, reportRequest "\x7b\"force\":true\x7d"),
    (worldOf .unreachable, reportRequest "\x7b\"force\":true\x7d")]

/-- The first of them is refused, and the other two are successes. -/
theorem run_reports_troubled :
    (∀ body, AsksReport (reportRequest body)) ∧ Malformed (reportRequest "\x7b") ∧
      Orders (reportRequest "\x7b\"force\":true\x7d") true ∧
      ∃ first second third, (reportingDashboard.run startBoard troubledReports)[0]? = some first ∧
        (reportingDashboard.run startBoard troubledReports)[1]? = some second ∧
        (reportingDashboard.run startBoard troubledReports)[2]? = some third ∧
        first.response.status = 400 ∧ first.received = [] ∧
        second.response = reportAnswer (some "fresh") ∧ third.response = reportAnswer none := by
  have hasks : ∀ body, AsksReport (reportRequest body) := fun _ => ⟨rfl, rfl⟩
  have hjson : saysJson "Application/JSON; charset=utf-8" = true := by decide +kernel
  have hmalformed : Malformed (reportRequest "\x7b") := by
    have hnone : (Wire.decode (bytesOf "\x7b") : Except Json.Complaint ReportOrder).toOption.isNone
        = true := by decide +kernel
    cases hbody : (Wire.decode (bytesOf "\x7b") : Except Json.Complaint ReportOrder) with
    | error complaint => exact ⟨_, complaint, rfl, hjson, hbody⟩
    | ok order =>
        rw [hbody] at hnone
        cases hnone
  have horder : Orders (reportRequest "\x7b\"force\":true\x7d") true := by
    have hforce : (Wire.decode (bytesOf "\x7b\"force\":true\x7d")
        : Except Json.Complaint ReportOrder).toOption.map (·.force) = some true := by
      decide +kernel
    obtain ⟨order, hbody, hforce⟩ := Option.map_eq_some_iff.mp hforce
    rw [← hforce]
    exact .told rfl hjson (by decide +kernel) (eq_ok_of_toOption hbody)
  obtain ⟨first, hfirst, hrefused, -⟩ := run_reports reportingDashboard startBoard []
    (troubledReports.drop 1) cutOffWorld (reportRequest "\x7b") (hasks _)
  obtain ⟨second, hsecond, -, hanswered⟩ := run_reports reportingDashboard startBoard
    (troubledReports.take 1) (troubledReports.drop 2) cutOffWorld
    (reportRequest "\x7b\"force\":true\x7d") (hasks _)
  obtain ⟨third, hthird, -, hanswered'⟩ := run_reports reportingDashboard startBoard
    (troubledReports.take 2) [] (worldOf .unreachable)
    (reportRequest "\x7b\"force\":true\x7d") (hasks _)
  obtain ⟨⟨message, hmessage⟩, hends⟩ := hrefused (.inl hmalformed)
  obtain ⟨⟨calls, hcalls⟩, hthrottle⟩ := (hanswered true horder).2 _ rfl
  obtain ⟨⟨calls', hcalls'⟩, hthrottle'⟩ := (hanswered' true horder).2 _ rfl
  refine ⟨hasks, hmalformed, horder, first, second, third, hfirst, hsecond, hthird, ?_,
    hends.received, (hthrottle calls hcalls).response, (hthrottle' calls' hcalls').response⟩
  rw [hmessage]
  rfl

/-- A request with an order behind more white space than is read of a body. -/
def paddedRequest : Request :=
  { reportRequest "" with
    body := List.replicate 2097152 0x20 ++ bytesOf "\x7b\"force\":true\x7d" }

theorem decode_order {body : List UInt8} {force : Bool}
    (h : ReportOrder.shape.decode body = .ok (force, ())) :
    (Wire.decode body : Except Json.Complaint ReportOrder) = .ok ⟨force⟩ :=
  congrArg (Except.map fun members : Bool × Unit => (⟨members.1⟩ : ReportOrder)) h

/-- A body that is an order is refused if it is too long. -/
theorem run_reports_padded :
    AsksReport paddedRequest ∧
      (Wire.decode paddedRequest.body : Except Json.Complaint ReportOrder) = .ok ⟨true⟩ ∧
      (reportingDashboard.respond (worldOf .unreachable) paddedRequest startBoard).1.response
        = explanation "Failed to buffer the request body: length limit exceeded" := by
  have hasks : AsksReport paddedRequest := ⟨rfl, rfl⟩
  have hlong : TooLong paddedRequest := by
    refine ⟨_, rfl, by decide +kernel, ?_⟩
    have hlength : paddedRequest.body.length
        = 2097152 + (bytesOf "\x7b\"force\":true\x7d").length := by
      rw [paddedRequest, List.length_append, List.length_replicate]
    have hpos : 0 < (bytesOf "\x7b\"force\":true\x7d").length := by decide +kernel
    omega
  refine ⟨hasks, ?_, ?_⟩
  · have hforce : (ReportOrder.shape.decode (bytesOf "\x7b\"force\":true\x7d")).toOption.map
        Prod.fst = some true := by
      decide +kernel
    obtain ⟨⟨_, _⟩, hvalue, rfl⟩ := Option.map_eq_some_iff.mp hforce
    have hspaces : Json.IsSpaces (List.replicate 2097152 0x20) := by
      intro b hb
      rw [List.eq_of_mem_replicate hb]
      rfl
    refine decode_order ?_
    rw [paddedRequest]
    exact Json.Shape.decode_behind_spaces hspaces (eq_ok_of_toOption hvalue)
  · rw [respond_refused hasks hlong.read_eq]
    rfl

end HealthBoard.Dashboard
