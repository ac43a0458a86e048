/-
The list of models that is kept.

The list is fetched until it is had, and from then on it is kept: a request before that asks the
gateway, one after that is answered with the list of the first success.  `respond_kept`,
`respond_fetched` and `respond_failed` are the three things that can come of one request for the
list; `respond_frame` says of every other request that it has no part in this.  What is kept after
a run is then read off the requests of the run, and `run_models` says the same of the replies.

That no other request asks for the list is said twice: by the calls that are made for it, and by the
paths of their requests.
-/
import HealthBoard.Proofs.Dashboard.Refusal
import HealthBoard.Proofs.Dashboard.Run
import HealthBoard.Proofs.Gateway.Place

namespace HealthBoard.Dashboard

/-- The request asks for the list of models, or for the headers of such an answer. -/
def AsksModels (request : Request) : Prop :=
  request.path = "/v1/models" ∧ (request.method = "GET" ∨ request.method = "HEAD")

theorem dispatch_eq_models_iff {request : Request} :
    dispatch request.method request.path = .ok .models ↔ AsksModels request := by
  rw [dispatch_eq_ok_iff]
  have hanswers : Route.models.answersTo request.method = true ↔
      request.method = "GET" ∨ request.method = "HEAD" := by
    simp [Route.answersTo]
  rw [hanswers]
  constructor
  · rintro ⟨-, hpath, hmethod⟩
    exact ⟨hpath, hmethod⟩
  · rintro ⟨hpath, hmethod⟩
    refine ⟨?_, hpath, hmethod⟩
    rcases hmethod with h | h
    · rw [h]
      decide
    · rw [h]
      decide

/-- The answer with a list of models; whoever asks for the headers gets no body. -/
def listingAnswer (method : String) (names : List String) : Response :=
  { status := 200
    headers := jsonHeaders ++ openHeaders
    body := if method = "HEAD" then .empty else .json (.obj [("success", .bool true),
      ("message", .str ""), ("data", .arr (names.map .str))]) }

variable {σ : Type} [KeyValueStore σ] {d : Dashboard} {w : World} {request : Request}
  {board : Board σ} {names : List String}

/-! ### One request for the list -/

theorem finish_listing (method : String) :
    finish method (success (.arr (names.map .str))) = listingAnswer method names := by
  unfold finish listingAnswer
  simp only [beq_iff_eq]
  rfl

theorem respond_models (h : AsksModels request) :
    d.respond w request board =
      (⟨finish request.method (d.models w board).1.response, (d.models w board).1.received⟩,
        (d.models w board).2) :=
  respond_of_answer (dispatch_eq_models_iff.mpr h) rfl

theorem respond_kept (h : AsksModels request) (hkept : board.models = some names) :
    d.respond w request board = (⟨listingAnswer request.method names, []⟩, board) := by
  rw [respond_models h]
  simp only [models, hkept, finish_listing]

theorem respond_fetched (h : AsksModels request) (hkeeps : d.keepsModels = true)
    (hnone : board.models = none) (hask : d.gateway.ask .enabledModels w.exchange = .ok names) :
    d.respond w request board =
      (⟨listingAnswer request.method names, d.gateway.received .enabledModels w.exchange⟩,
        { board with models := some names }) := by
  rw [respond_models h]
  simp only [models, hnone, consult, hask, hkeeps, if_true]
  rw [← finish_listing]
  rfl

theorem respond_failed {fault : GatewayFault} (h : AsksModels request)
    (hnone : board.models = none)
    (hask : d.gateway.ask .enabledModels w.exchange = .error fault) :
    d.respond w request board =
      (⟨finish request.method (degraded fault (.arr [])),
        d.gateway.received .enabledModels w.exchange⟩, board) := by
  rw [respond_models h]
  simp only [models, hnone, consult, hask]
  rfl

/-! ### Any other request -/

omit [KeyValueStore σ] in
private theorem map_frame (x : Except Failure Reply) (board : Board σ)
    (kept : Option (List String)) :
    x.map (·, { board with models := kept })
      = (x.map (·, board)).map fun (reply, board') =>
          (reply, { board' with models := kept }) := by
  cases x with
  | error failure => rfl
  | ok reply => rfl

/-- Only the list itself depends on the list that is kept, and only it changes that. -/
theorem answerAt_frame (d : Dashboard) (w : World) (request : Request) (board : Board σ)
    {route : Route} (hroute : route ≠ .models) (kept : Option (List String)) :
    d.answerAt w request { board with models := kept } route
      = (d.answerAt w request board route).map fun (reply, board') =>
          (reply, { board' with models := kept }) := by
  cases route with
  | models => exact absurd rfl hroute
  | health => rfl
  | trend => exact map_frame _ board kept
  | overview => exact map_frame _ board kept
  | fingerprints => exact map_frame _ board kept
  | duplicates => exact map_frame _ board kept
  | users => exact map_frame _ board kept
  | report =>
      rw [answerAt, answerAt, report, report]
      cases readReportOrder request.contentType request.body with
      | error fault => rfl
      | ok order =>
          cases d.reporting with
          | none => rfl
          | some r => rfl

/-- A request for anything but the list leads to another place, or to none. -/
theorem ne_models_of_dispatch {route : Route} (h : ¬ AsksModels request)
    (hdispatch : dispatch request.method request.path = .ok route) : route ≠ .models := by
  rintro rfl
  exact h (dispatch_eq_models_iff.mp hdispatch)

/-- **No other request reads the list that is kept, or changes it.** -/
theorem respond_frame (h : ¬ AsksModels request) (board : Board σ)
    (kept : Option (List String)) :
    d.respond w request { board with models := kept }
      = ((d.respond w request board).1,
          { (d.respond w request board).2 with models := kept }) := by
  cases hdispatch : dispatch request.method request.path with
  | error response => rw [respond_of_response hdispatch, respond_of_response hdispatch]
  | ok route =>
      have hframe := answerAt_frame d w request board
        (ne_models_of_dispatch h hdispatch) kept
      cases hanswer : d.answerAt w request board route with
      | error failure =>
          rw [hanswer] at hframe
          rw [respond_of_failure hdispatch hframe, respond_of_failure hdispatch hanswer]
      | ok answered =>
          rw [hanswer] at hframe
          rw [respond_of_answer hdispatch hframe, respond_of_answer hdispatch hanswer]

theorem models_respond (h : ¬ AsksModels request) :
    (d.respond w request board).2.models = board.models := by
  have hframe := respond_frame (d := d) (w := w) h board board.models
  exact congrArg (fun answered => answered.2.models) hframe

/-! ### What other requests ask -/

/-- The gateway that the dashboard asks, or the one that it reports to. -/
def AtHand (d : Dashboard) (g : Gateway) : Prop :=
  g = d.gateway ∨ ∃ reporting, d.reporting = some reporting ∧ g = reporting.gateway

/--
The request is received for one of the six calls that are not for the list.  If nothing follows the
path in the gateway's address and no reply sends on, the list is not what it asks for.
-/
def ForOther (d : Dashboard) (x : Exchange) (r : GatewayRequest) : Prop :=
  ∃ g c, AtHand d g ∧ c ≠ Call.enabledModels ∧ r ∈ g.received c.question x ∧
    ('?' ∉ g.baseUrl.toList → '#' ∉ g.baseUrl.toList → x.IsDirect → ∀ address,
      Url.Address.parse (g.root ++ "/api/channel/models_enabled") = .ok address →
        r.address.target.takeWhile (· != '?') ≠ address.path)

theorem forOther_of_received {g : Gateway} {c : Call} {x : Exchange} (hgateway : AtHand d g)
    (hother : c ≠ .enabledModels) : ∀ r ∈ g.received c.question x, ForOther d x r := by
  intro r hr
  refine ⟨g, c, hgateway, hother, hr, fun hquery hfragment hdirect address haddress => ?_⟩
  cases hrequest : g.request? c.question with
  | none =>
      rw [Gateway.received_of_none hrequest] at hr
      cases hr
  | some request =>
      have hplace : '?' ∉ c.question.path.toList := by
        rw [c.question_path]
        exact c.signs_notMem_place.1
      have hsend : g.CanSend c.question.path := Gateway.canSend_iff.mpr (by rw [hrequest]; rfl)
      obtain ⟨_, hsame, -, -, place, hparse, -, -, hasks, -⟩ := hsend.exists_targets hplace
      cases hrequest.symm.trans hsame
      rw [(Gateway.received_of_request hrequest).direct hdirect] at hr
      split at hr
      · cases hr
      · rw [List.mem_singleton.mp hr, hasks.path_eq]
        rw [c.question_path] at hparse
        have hending : c.ending ≠ Call.enabledModels.ending := Call.ending_ne hother
        exact Gateway.path_ne hquery hfragment hending hparse haddress

/-- The call that an inquiry makes. -/
def Inquiry.call : Inquiry → Call
  | .models => .enabledModels
  | .trend modelName window => .hourlyHealth modelName window
  | .overview _ => .publicHourly
  | .fingerprints keyword page => .fingerprints keyword page.page page.size
  | .duplicates page => .duplicateVisitors page.page page.size
  | .users visitorId ip page => .usersByVisitor visitorId ip page.page page.size

theorem Inquiry.received_call (i : Inquiry) (g : Gateway) (x : Exchange) :
    g.received i.question x = g.received i.call.question x := by
  cases i <;> rfl

/-- Only one inquiry is for the list. -/
theorem Inquiry.call_ne {i : Inquiry} (h : i ≠ .models) : i.call ≠ .enabledModels := by
  cases i with
  | models => exact absurd rfl h
  | _ => simp [call]

/-- And only one place makes it. -/
theorem Inquiry.ne_models_of_read {now : Int64} {raw : Option (List UInt8)} {route : Route}
    {i : Inquiry} (hroute : route ≠ .models) (h : Inquiry.read? now raw route = some i) :
    i ≠ .models := by
  rintro rfl
  cases route with
  | models => exact hroute rfl
  | health => cases h
  | report => cases h
  | _ => simp [Inquiry.read?, Option.bind_eq_some_iff] at h

theorem forOther_report {reporting : Reporting} (h : d.reporting = some reporting)
    (m : Reporting.Moment) (acts : List Throttle.Act) :
    ∀ r ∈ reporting.received m acts, ForOther d m.exchange r := by
  intro r hr
  obtain ⟨act, -, hact⟩ := List.mem_flatMap.mp hr
  cases act with
  | collect => cases hact
  | report id =>
      exact forOther_of_received (c := .recordFingerprint id) (.inr ⟨reporting, h, rfl⟩) (by simp)
        r hact

/-- A place that is asked through an inquiry. -/
theorem forOther_consult {route : Route} {answered : Reply × Board σ} (hreads : route.Reads)
    (hroute : route ≠ .models) (h : d.answerAt w request board route = .ok answered) :
    ∀ r ∈ answered.1.received, ForOther d w.exchange r := by
  cases hread : Inquiry.read? w.now request.query route with
  | none =>
      have hexplained : Explained (d.answerAt w request board route) :=
        answerAt_of_unread hreads hread
      obtain ⟨message, hmessage⟩ := hexplained
      rw [hmessage] at h
      cases h
  | some i =>
      have hkept : route = .models → board.models = none := fun hmodels => absurd hmodels hroute
      obtain ⟨board', hanswer⟩ := answerAt_of_read (d := d) hread hkept
      rw [hanswer] at h
      obtain rfl := Except.ok.inj h
      have hcall : i.call ≠ .enabledModels :=
        Inquiry.call_ne (Inquiry.ne_models_of_read hroute hread)
      intro r hr
      simp only [consult, i.received_call] at hr
      exact forOther_of_received (g := d.gateway) (.inl rfl) hcall r hr

/-- The place that reports. -/
theorem forOther_reported {answered : Reply × Board σ}
    (h : d.answerAt w request board .report = .ok answered) :
    ∀ r ∈ answered.1.received, ForOther d w.exchange r := by
  rw [answerAt, report] at h
  cases horder : readReportOrder request.contentType request.body with
  | error fault =>
      rw [horder] at h
      cases h
  | ok order =>
      rw [horder] at h
      cases hreporting : d.reporting with
      | none =>
          simp only [hreporting] at h
          cases h
      | some r =>
          simp only [hreporting] at h
          obtain rfl := Except.ok.inj h
          exact forOther_report hreporting _ _

theorem forOther_answerAt {route : Route} {answered : Reply × Board σ}
    (hroute : route ≠ .models) (h : d.answerAt w request board route = .ok answered) :
    ∀ r ∈ answered.1.received, ForOther d w.exchange r := by
  by_cases hreads : route.Reads
  · exact forOther_consult hreads hroute h
  · cases route with
    | health =>
        obtain rfl := Except.ok.inj h
        simp
    | report => exact forOther_reported h
    | models => exact absurd rfl hroute
    | _ => exact absurd ⟨by decide, by decide⟩ hreads

/-- **No other request asks the gateway for the list.** -/
theorem forOther_respond (h : ¬ AsksModels request) :
    ∀ r ∈ (d.respond w request board).1.received, ForOther d w.exchange r := by
  cases hdispatch : dispatch request.method request.path with
  | error response =>
      rw [respond_of_response hdispatch]
      simp
  | ok route =>
      cases hanswer : d.answerAt w request board route with
      | error failure =>
          rw [respond_of_failure hdispatch hanswer]
          simp
      | ok answered =>
          have hother := forOther_answerAt (ne_models_of_dispatch h hdispatch) hanswer
          rw [respond_of_answer hdispatch hanswer]
          exact hother

/-! ### A run of requests -/

/-- The gateway gave no list to any of these requests. -/
def Unlisted (d : Dashboard) (steps : List (World × Request)) : Prop :=
  ∀ step ∈ steps, AsksModels step.2 →
    ∃ fault, d.gateway.ask .enabledModels step.1.exchange = .error fault

/-- The first of these requests that the gateway gave a list to was given this one. -/
def FirstListing (d : Dashboard) (steps : List (World × Request)) (names : List String) : Prop :=
  ∃ earlier w request later, steps = earlier ++ (w, request) :: later ∧
    AsksModels request ∧ d.gateway.ask .enabledModels w.exchange = .ok names ∧ Unlisted d earlier

theorem FirstListing.cons {first : World × Request} {rest : List (World × Request)}
    (hfirst : AsksModels first.2 →
      ∃ fault, d.gateway.ask .enabledModels first.1.exchange = .error fault)
    (h : FirstListing d rest names) : FirstListing d (first :: rest) names := by
  obtain ⟨earlier, w, request, later, rfl, hasks, hask, hearlier⟩ := h
  exact ⟨first :: earlier, w, request, later, rfl, hasks, hask,
    List.forall_mem_cons.mpr ⟨hfirst, hearlier⟩⟩

/-- Either there was a list or there was none. -/
theorem unlisted_or_firstListing (d : Dashboard) (steps : List (World × Request)) :
    Unlisted d steps ∨ ∃ names, FirstListing d steps names := by
  induction steps with
  | nil => exact .inl (by simp [Unlisted])
  | cons first rest ih =>
      by_cases hfirst : AsksModels first.2 →
          ∃ fault, d.gateway.ask .enabledModels first.1.exchange = .error fault
      · rcases ih with hrest | ⟨names, hrest⟩
        · exact .inl (List.forall_mem_cons.mpr ⟨hfirst, hrest⟩)
        · exact .inr ⟨names, hrest.cons hfirst⟩
      · obtain ⟨hasks, hgiven⟩ := Classical.not_imp.mp hfirst
        cases hask : d.gateway.ask .enabledModels first.1.exchange with
        | ok names =>
            exact .inr ⟨names, [], first.1, first.2, rest, rfl, hasks, hask, by simp [Unlisted]⟩
        | error fault => exact absurd ⟨fault, hask⟩ hgiven

/-- Failures leave nothing behind, however many there are. -/
theorem models_after_of_unlisted {steps : List (World × Request)} :
    ∀ {board : Board σ}, board.models = none → Unlisted d steps →
      (d.after board steps).models = none := by
  induction steps with
  | nil =>
      intro board hnone _
      exact hnone
  | cons first rest ih =>
      intro board hnone hsteps
      obtain ⟨hfirst, hrest⟩ := List.forall_mem_cons.mp hsteps
      refine ih ?_ hrest
      by_cases hasks : AsksModels first.2
      · obtain ⟨fault, hask⟩ := hfirst hasks
        rw [respond_failed hasks hnone hask]
        exact hnone
      · rw [models_respond hasks]
        exact hnone

/-- A list that is kept stays. -/
theorem models_after_of_kept {steps : List (World × Request)} :
    ∀ {board : Board σ}, board.models = some names →
      (d.after board steps).models = some names := by
  induction steps with
  | nil =>
      intro board hkept
      exact hkept
  | cons first rest ih =>
      intro board hkept
      refine ih ?_
      by_cases hasks : AsksModels first.2
      · rw [respond_kept hasks hkept]
        exact hkept
      · rw [models_respond hasks]
        exact hkept

/-- What is kept after a run is the first list there was. -/
theorem models_after_of_firstListing {steps : List (World × Request)}
    (hkeeps : d.keepsModels = true) (hnone : board.models = none)
    (h : FirstListing d steps names) : (d.after board steps).models = some names := by
  obtain ⟨earlier, w, request, later, rfl, hasks, hask, hearlier⟩ := h
  have hmissing := models_after_of_unlisted hnone hearlier
  rw [after_append, after_cons, respond_fetched hasks hkeeps hmissing hask]
  exact models_after_of_kept rfl

/-- The list is fetched: the gateway is asked for it, and its answer is passed on. -/
structure Fetches (d : Dashboard) (w : World) (request : Request) (reply : Reply)
    (kept : Option (List String)) : Prop where
  passesOn : d.gateway.PassesOn "/api/channel/models_enabled" [] w.exchange reply.received
  given : ∀ names, d.gateway.ask .enabledModels w.exchange = .ok names →
    reply.response = listingAnswer request.method names ∧ kept = some names
  /-- A failure of whatever kind leaves nothing behind. -/
  failed : ∀ fault, d.gateway.ask .enabledModels w.exchange = .error fault →
    reply.response.status = 502 ∧ kept = none

theorem passesOn_models : d.gateway.PassesOn "/api/channel/models_enabled" [] w.exchange
    (d.gateway.received .enabledModels w.exchange) := by
  have hplace : '?' ∉ Question.enabledModels.path.toList := by
    show '?' ∉ "/api/channel/models_enabled".toList
    decide
  exact Gateway.passesOn_received hplace rfl rfl

theorem fetches_respond (hasks : AsksModels request) (hkeeps : d.keepsModels = true)
    (hnone : board.models = none) :
    Fetches d w request (d.respond w request board).1 (d.respond w request board).2.models := by
  cases hask : d.gateway.ask .enabledModels w.exchange with
  | ok names =>
      rw [respond_fetched hasks hkeeps hnone hask]
      refine ⟨?_, ?_, ?_⟩
      · dsimp only
        exact passesOn_models
      · intro names' hnames
        rw [hask] at hnames
        cases hnames
        exact ⟨rfl, rfl⟩
      · intro fault hfault
        rw [hask] at hfault
        cases hfault
  | error fault =>
      rw [respond_failed hasks hnone hask]
      refine ⟨?_, ?_, ?_⟩
      · dsimp only
        exact passesOn_models
      · intro names hnames
        rw [hask] at hnames
        cases hnames
      · intro fault' hfault
        exact ⟨rfl, hnone⟩

/-- A lifetime that is not zero has the list kept. -/
theorem keepsModels_of_keeping {seconds : UInt64} (h : keeping seconds = .ok d.keepsModels)
    (hseconds : seconds ≠ 0) : d.keepsModels = true := by
  unfold keeping at h
  split at h
  · cases h
  · rw [← Except.ok.inj h]
    simpa using hseconds

/--
**The list of models is fetched until it is had, and then kept.**  At any point of a run that starts
with nothing kept, a request for the list is passed to the gateway as long as none of the requests
before had a list from it; from the first list on it is not, and the answer is that list.  No other
request asks the gateway for the list, reads what is kept or changes it.
-/
theorem run_models {seconds : UInt64} (hkeeping : keeping seconds = .ok d.keepsModels)
    (hseconds : seconds ≠ 0) (hstart : board.models = none) (past future : List (World × Request))
    (w : World) (request : Request) :
    ∃ reply, (d.run board (past ++ (w, request) :: future))[past.length]? = some reply ∧
      (AsksModels request →
        (Unlisted d past ∨ ∃ names, FirstListing d past names) ∧
        (Unlisted d past →
          Fetches d w request reply (d.after board (past ++ [(w, request)])).models) ∧
        ∀ names, FirstListing d past names →
          reply = ⟨listingAnswer request.method names, []⟩) ∧
      (¬ AsksModels request →
        (∀ r ∈ reply.received, ForOther d w.exchange r) ∧
        ∀ kept, d.respond w request { d.after board past with models := kept }
          = (reply, { d.after board (past ++ [(w, request)]) with models := kept })) := by
  have hkeeps := keepsModels_of_keeping hkeeping hseconds
  have hafter : d.after board (past ++ [(w, request)])
      = (d.respond w request (d.after board past)).2 := by
    rw [after_append, after_cons, after_nil]
  refine ⟨_, run_getElem?, fun hasks => ⟨unlisted_or_firstListing d past, ?_, ?_⟩,
    fun hother => ⟨forOther_respond hother, ?_⟩⟩
  · intro hpast
    rw [hafter]
    exact fetches_respond hasks hkeeps (models_after_of_unlisted hstart hpast)
  · intro names hpast
    rw [respond_kept hasks (models_after_of_firstListing hkeeps hstart hpast)]
  · intro kept
    rw [hafter]
    exact respond_frame hother _ kept

/-- A request for the list, which has no parameters. -/
def modelsRequest : Request := { path := "/v1/models" }

/-- A success whose data are one name. -/
def oneModelReply : List UInt8 := bytesOf "\x7b\"success\":true,\"data\":[\"m\"]\x7d"

/-- Three requests for the list: the gateway fails, it gives the list, and it cannot be reached. -/
def outage : List (World × Request) :=
  [(worldOf (.reply 500 []), modelsRequest), (worldOf (.reply 200 oneModelReply), modelsRequest),
    (worldOf .unreachable, modelsRequest)]

theorem run_models_outage :
    keeping 300 = .ok sampleDashboard.keepsModels ∧ startBoard.models = none ∧
      AsksModels modelsRequest ∧
      ∃ first second third, (sampleDashboard.run startBoard outage)[0]? = some first ∧
        (sampleDashboard.run startBoard outage)[1]? = some second ∧
        (sampleDashboard.run startBoard outage)[2]? = some third ∧
        first.response.status = 502 ∧ first.received.length = 1 ∧
        second.response = listingAnswer "GET" ["m"] ∧ second.received.length = 1 ∧
        third = ⟨listingAnswer "GET" ["m"], []⟩ := by
  have hkeeping : keeping 300 = .ok sampleDashboard.keepsModels := rfl
  have hstart : startBoard.models = none := rfl
  have hasks : AsksModels modelsRequest := ⟨rfl, .inl rfl⟩
  have hsend : sampleDashboard.gateway.CanSend "/api/channel/models_enabled" :=
    canSend_sample (by decide +kernel)
  have hfails : ∃ fault,
      sampleDashboard.gateway.ask .enabledModels (.reply 500 []) = .error fault := by
    obtain ⟨r, -, hrequest, -⟩ := hsend.request?_eq (q := .enabledModels)
    exact ⟨.status 500, Gateway.ask_eq_error_of_data (by rw [hrequest]; rfl) rfl⟩
  have hgives : sampleDashboard.gateway.ask .enabledModels (.reply 200 oneModelReply)
      = .ok ["m"] := eq_ok_of_toOption (by decide +kernel)
  have hnothing : Unlisted sampleDashboard [(worldOf (.reply 500 []), modelsRequest)] :=
    List.forall_mem_singleton.mpr fun _ => hfails
  obtain ⟨first, hfirst, hanswers, -⟩ := run_models hkeeping (by decide) hstart []
    (outage.drop 1) (worldOf (.reply 500 [])) modelsRequest
  obtain ⟨second, hsecond, hanswers', -⟩ := run_models hkeeping (by decide) hstart
    (outage.take 1) (outage.drop 2) (worldOf (.reply 200 oneModelReply)) modelsRequest
  obtain ⟨third, hthird, hanswers'', -⟩ := run_models hkeeping (by decide) hstart (outage.take 2)
    [] (worldOf .unreachable) modelsRequest
  have hfetch := (hanswers hasks).2.1 (by simp [Unlisted])
  have hfetch' := (hanswers' hasks).2.1 hnothing
  have hlisted : FirstListing sampleDashboard (outage.take 2) ["m"] :=
    ⟨_, worldOf (.reply 200 oneModelReply), modelsRequest, [], rfl, hasks, hgives, hnothing⟩
  obtain ⟨fault, hfault⟩ := hfails
  obtain ⟨r, -, hreceived, -⟩ := hfetch.passesOn.one hsend (by decide)
    (Exchange.isDirect_reply 500 _) (by decide)
  obtain ⟨r', -, hreceived', -⟩ := hfetch'.passesOn.one hsend (by decide)
    (Exchange.isDirect_reply 200 _) (by decide)
  exact ⟨hkeeping, hstart, hasks, first, second, third, hfirst, hsecond, hthird,
    (hfetch.failed fault hfault).1, by rw [hreceived]; rfl, (hfetch'.given _ hgives).1,
    by rw [hreceived']; rfl, (hanswers'' hasks).2.2 _ hlisted⟩

/-- Requests for the list of which the gateway does not hear, or of which two requests are received:
the token cannot be sent, and the reply sends on. -/
theorem run_models_strays :
    (mutedDashboard.run startBoard
        [(worldOf (.reply 200 oneModelReply), modelsRequest)]).map
          (fun reply => (reply.response.status, reply.received.length)) = [(502, 0)] ∧
      (sampleDashboard.run startBoard [(worldOf (sentOn oneModelReply), modelsRequest)]).map
          (fun reply => (reply.response.status, reply.received.length)) = [(200, 2)] := by
  decide +kernel

end HealthBoard.Dashboard
