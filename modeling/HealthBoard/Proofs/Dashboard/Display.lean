/-
Every reply of the gateway comes to something that can be shown.

There are four things that a place shows: what the gateway gave, or its empty view with one of
three lines.  Which of them it is can be said without the program, from the reply alone, and what
the answer is then is a function of the thing shown and the place: no other part of the reply gets
into it.  The work is in saying where each fault of an inquiry comes from: a refusal is in the reply
itself, and a complaint about the form is the question's or, for an overview, one about bounds that
make no window.
-/
import HealthBoard.Proofs.Dashboard.Inquiry

namespace HealthBoard.Dashboard

/-! ### Where the faults of an inquiry come from -/

/-- What comes of an inquiry: what is shown, or a fault. -/
def outcome (d : Dashboard) (w : World) (i : Inquiry) : Except GatewayFault Json :=
  (d.gateway.ask i.question w.exchange).bind (i.view d.thresholds)

variable {d : Dashboard} {w : World} {i : Inquiry}

theorem outcome_eq_ok_iff {data : Json} :
    d.outcome w i = .ok data ↔
      ∃ answer, d.gateway.ask i.question w.exchange = .ok answer ∧
        i.view d.thresholds answer = .ok data := by
  unfold outcome
  cases d.gateway.ask i.question w.exchange with
  | error fault => simp [Except.bind]
  | ok answer => simp [Except.bind]

/-- The only view that there may not be is an overview's, and only for want of a window. -/
theorem Inquiry.view_eq_error {thresholds : ThresholdSettings} {answer : i.Answer}
    {fault : GatewayFault} (h : i.view thresholds answer = .error fault) :
    ∃ detail, fault = .shape detail := by
  cases i with
  | overview search =>
      simp only [Inquiry.view] at h
      split at h
      · cases h
      · exact ⟨_, (Except.error.inj h).symm⟩
  | models => cases h
  | trend modelName window => cases h
  | fingerprints keyword page => cases h
  | duplicates page => cases h
  | users visitorId ip page => cases h

/-- A fault of any other kind is a fault of asking. -/
theorem outcome_eq_error_iff {fault : GatewayFault} (h : ∀ detail, fault ≠ .shape detail) :
    d.outcome w i = .error fault ↔ d.gateway.ask i.question w.exchange = .error fault := by
  unfold outcome
  cases d.gateway.ask i.question w.exchange with
  | error fault' => simp [Except.bind]
  | ok answer =>
      constructor
      · intro hview
        obtain ⟨detail, hshape⟩ := Inquiry.view_eq_error hview
        exact absurd hshape (h detail)
      · intro hask
        cases hask

theorem outcome_eq_transport_iff :
    d.outcome w i = .error .transport ↔
      d.gateway.ask i.question w.exchange = .error .transport :=
  outcome_eq_error_iff (by simp)

theorem outcome_eq_status_iff {code : Nat} :
    d.outcome w i = .error (.status code) ↔
      d.gateway.ask i.question w.exchange = .error (.status code) :=
  outcome_eq_error_iff (by simp)

theorem outcome_eq_backend_iff {message : String} :
    d.outcome w i = .error (.backend message) ↔
      (d.gateway.request? i.question).isSome ∧ w.exchange.Refuses message := by
  rw [outcome_eq_error_iff (by simp), Gateway.ask_eq_backend_iff i.question_onlyForm]

/-- The gateway is asked for an overview, and answers with bounds that make no window. -/
def LacksWindow (d : Dashboard) (w : World) (i : Inquiry) : Prop :=
  ∃ (search : String) (payload : PublicHourlyPayload) (fault : WindowFault),
    i = .overview search ∧ d.gateway.ask .publicHourly w.exchange = .ok payload ∧
      HourWindow.between payload.startHour payload.endHour = .error fault

theorem lacksWindow_of_view {answer : i.Answer} {fault : GatewayFault}
    (hask : d.gateway.ask i.question w.exchange = .ok answer)
    (h : i.view d.thresholds answer = .error fault) : LacksWindow d w i := by
  cases i with
  | overview search =>
      simp only [Inquiry.view] at h
      split at h
      · cases h
      · rename_i bounds hbounds
        exact ⟨search, answer, bounds, rfl, hask, hbounds⟩
  | models => cases h
  | trend modelName window => cases h
  | fingerprints keyword page => cases h
  | duplicates page => cases h
  | users visitorId ip page => cases h

theorem LacksWindow.outcome_eq (h : LacksWindow d w i) :
    ∃ detail, d.outcome w i = .error (.shape detail) := by
  obtain ⟨search, payload, fault, rfl, hask, hbounds⟩ := h
  have hasked : d.gateway.ask (Inquiry.overview search).question w.exchange = .ok payload := hask
  refine ⟨"window: " ++ fault.message, ?_⟩
  rw [outcome, hasked]
  show Inquiry.view d.thresholds (.overview search) payload = _
  simp only [Inquiry.view, hbounds]

theorem outcome_eq_shape_iff :
    (∃ detail, d.outcome w i = .error (.shape detail)) ↔
      (∃ detail, d.gateway.ask i.question w.exchange = .error (.shape detail)) ∨
        LacksWindow d w i := by
  constructor
  · rintro ⟨detail, h⟩
    cases hask : d.gateway.ask i.question w.exchange with
    | error fault =>
        rw [outcome, hask] at h
        exact .inl ⟨detail, congrArg Except.error (Except.error.inj h)⟩
    | ok answer =>
        rw [outcome, hask] at h
        exact .inr (lacksWindow_of_view hask h)
  · rintro (⟨detail, hask⟩ | hwindow)
    · refine ⟨detail, ?_⟩
      rw [outcome, hask]
      rfl
    · exact hwindow.outcome_eq

/-! ### What is shown -/

/-- What a place shows. -/
inductive Display where
  /-- What the gateway gave. -/
  | view (data : Json)
  /-- Nothing, and what the gateway said about it. -/
  | ownWords (message : String)
  /-- Nothing, and that the answer did not have the form it should have. -/
  | shapeNotice
  /-- Nothing, and that there was no answer. -/
  | genericNotice

namespace Display

def success : Display → Bool
  | .view _ => true
  | _ => false

def status : Display → Nat
  | .view _ => 200
  | _ => 502

def message : Display → String
  | .view _ => ""
  | .ownWords message => message
  | .shapeNotice => "upstream returned an unexpected response structure"
  | .genericNotice => "request to upstream failed"

/-- The data of the answer at a place. -/
def data (route : Route) : Display → Json
  | .view data => data
  | _ => route.emptyView

/-- The answer at a place as it goes out. -/
def response (route : Route) (shown : Display) : Response :=
  { status := shown.status
    headers := jsonHeaders ++ openHeaders
    body := .json (.obj [("success", .bool shown.success), ("message", .str shown.message),
      ("data", shown.data route)]) }

/-- What is shown of a fault. -/
def ofFault : GatewayFault → Display
  | .backend message => if Text.isAllBlank message then .genericNotice else .ownWords message
  | .shape _ => .shapeNotice
  | .transport | .status _ => .genericNotice

/-- What is shown of what comes of an inquiry. -/
def ofOutcome : Except GatewayFault Json → Display
  | .ok data => .view data
  | .error fault => .ofFault fault

theorem ofFault_backend {message : String} (h : Text.isAllBlank message = false) :
    ofFault (.backend message) = .ownWords message := by
  simp [ofFault, h]

theorem ofFault_backend_of_blank {message : String} (h : Text.isAllBlank message = true) :
    ofFault (.backend message) = .genericNotice := by
  simp [ofFault, h]

/-- A fault is put in the gateway's words, called one of form, or not explained at all. -/
theorem ofFault_cases (fault : GatewayFault) :
    (∃ message, fault = .backend message ∧ Text.isAllBlank message = false ∧
      ofFault fault = .ownWords message) ∨
    (∃ detail, fault = .shape detail ∧ ofFault fault = .shapeNotice) ∨
    ((fault = .transport ∨ (∃ code, fault = .status code) ∨
      ∃ message, fault = .backend message ∧ Text.isAllBlank message = true) ∧
      ofFault fault = .genericNotice) := by
  cases fault with
  | transport => exact .inr (.inr ⟨.inl rfl, rfl⟩)
  | status code => exact .inr (.inr ⟨.inr (.inl ⟨code, rfl⟩), rfl⟩)
  | shape detail => exact .inr (.inl ⟨detail, rfl, rfl⟩)
  | backend message =>
      cases hblank : Text.isAllBlank message with
      | false => exact .inl ⟨message, rfl, hblank, ofFault_backend hblank⟩
      | true =>
          exact .inr (.inr ⟨.inr (.inr ⟨message, rfl, hblank⟩), ofFault_backend_of_blank hblank⟩)

theorem ofFault_ne_view (fault : GatewayFault) (data : Json) : ofFault fault ≠ .view data := by
  intro heq
  rcases ofFault_cases fault with ⟨message, -, -, h⟩ | ⟨detail, -, h⟩ | ⟨-, h⟩
  · rw [h] at heq
    cases heq
  · rw [h] at heq
    cases heq
  · rw [h] at heq
    cases heq

theorem ofFault_eq_ownWords_iff {fault : GatewayFault} {message : String} :
    ofFault fault = .ownWords message ↔
      fault = .backend message ∧ Text.isAllBlank message = false := by
  constructor
  · intro heq
    rcases ofFault_cases fault with ⟨said, hsaid, hblank, h⟩ | ⟨detail, -, h⟩ | ⟨-, h⟩
    · rw [h] at heq
      cases heq
      exact ⟨hsaid, hblank⟩
    · rw [h] at heq
      cases heq
    · rw [h] at heq
      cases heq
  · rintro ⟨rfl, hblank⟩
    exact ofFault_backend hblank

theorem ofFault_eq_shapeNotice_iff {fault : GatewayFault} :
    ofFault fault = .shapeNotice ↔ ∃ detail, fault = .shape detail := by
  constructor
  · intro heq
    rcases ofFault_cases fault with ⟨message, -, -, h⟩ | ⟨detail, hdetail, -⟩ | ⟨-, h⟩
    · rw [h] at heq
      cases heq
    · exact ⟨detail, hdetail⟩
    · rw [h] at heq
      cases heq
  · rintro ⟨detail, rfl⟩
    rfl

theorem ofFault_eq_genericNotice_iff {fault : GatewayFault} :
    ofFault fault = .genericNotice ↔
      fault = .transport ∨ (∃ code, fault = .status code) ∨
        ∃ message, fault = .backend message ∧ Text.isAllBlank message = true := by
  constructor
  · intro heq
    rcases ofFault_cases fault with ⟨message, -, -, h⟩ | ⟨detail, -, h⟩ | ⟨hfault, -⟩
    · rw [h] at heq
      cases heq
    · rw [h] at heq
      cases heq
    · exact hfault
  · rintro (rfl | ⟨code, rfl⟩ | ⟨message, rfl, hblank⟩)
    · rfl
    · rfl
    · exact ofFault_backend_of_blank hblank

/-- A degraded answer shows the fault, whatever the gateway said. -/
theorem finish_degraded (fault : GatewayFault) (route : Route) :
    finish "GET" (degraded fault route.emptyView) = (ofFault fault).response route := by
  cases fault with
  | backend message =>
      cases hblank : Text.isAllBlank message with
      | false =>
          rw [ofFault_backend hblank, degraded, GatewayFault.notice, hblank]
          rfl
      | true =>
          rw [ofFault_backend_of_blank hblank, degraded, GatewayFault.notice, hblank]
          rfl
  | transport => rfl
  | status code => rfl
  | shape detail => rfl

/-- Faults of one kind that are not the gateway's own word are shown alike. -/
theorem ofFault_eq_of_kind {fault fault' : GatewayFault} (hkind : fault.kind = fault'.kind)
    (hbackend : fault.kind ≠ "backend") : ofFault fault = ofFault fault' := by
  cases fault with
  | backend message => exact absurd rfl hbackend
  | transport =>
      cases fault' with
      | transport => rfl
      | status code => rfl
      | backend message => simp [GatewayFault.kind] at hkind
      | shape detail => simp [GatewayFault.kind] at hkind
  | status code =>
      cases fault' with
      | transport => rfl
      | status code' => rfl
      | backend message => simp [GatewayFault.kind] at hkind
      | shape detail => simp [GatewayFault.kind] at hkind
  | shape detail =>
      cases fault' with
      | shape detail' => rfl
      | transport => simp [GatewayFault.kind] at hkind
      | status code => simp [GatewayFault.kind] at hkind
      | backend message => simp [GatewayFault.kind] at hkind

/--
What is shown follows from what came of the request: each of the four exactly in the cases that are
named here, of which there is always one and never two.
-/
structure Explains (d : Dashboard) (w : World) (i : Inquiry) (shown : Display) : Prop where
  view : ∀ data, shown = .view data ↔
    ∃ answer, d.gateway.ask i.question w.exchange = .ok answer ∧
      i.view d.thresholds answer = .ok data
  /-- The gateway was reached, refused, and said why. -/
  ownWords : ∀ message, shown = .ownWords message ↔
    (d.gateway.request? i.question).isSome ∧ w.exchange.Refuses message ∧
      Text.isAllBlank message = false
  shapeNotice : shown = .shapeNotice ↔
    (∃ detail, d.gateway.ask i.question w.exchange = .error (.shape detail)) ∨ LacksWindow d w i
  /-- No reply came, or one with nothing but an error status, or a refusal without a reason. -/
  genericNotice : shown = .genericNotice ↔
    d.gateway.ask i.question w.exchange = .error .transport ∨
      (∃ code, d.gateway.ask i.question w.exchange = .error (.status code)) ∨
      ∃ message, (d.gateway.request? i.question).isSome ∧ w.exchange.Refuses message ∧
        Text.isAllBlank message = true

theorem explains_ofOutcome : Explains d w i (ofOutcome (d.outcome w i)) where
  view data := by
    rw [← outcome_eq_ok_iff]
    cases d.outcome w i with
    | ok shown => simp [ofOutcome]
    | error fault => simp [ofOutcome, ofFault_ne_view]
  ownWords message := by
    rw [← and_assoc, ← outcome_eq_backend_iff]
    cases d.outcome w i with
    | ok shown => simp [ofOutcome]
    | error fault => simp [ofOutcome, ofFault_eq_ownWords_iff]
  shapeNotice := by
    rw [← outcome_eq_shape_iff]
    cases d.outcome w i with
    | ok shown => simp [ofOutcome]
    | error fault => simp [ofOutcome, ofFault_eq_shapeNotice_iff]
  genericNotice := by
    simp only [← and_assoc, ← outcome_eq_backend_iff, ← outcome_eq_transport_iff,
      ← outcome_eq_status_iff]
    cases d.outcome w i with
    | ok shown => simp [ofOutcome]
    | error fault => simp [ofOutcome, ofFault_eq_genericNotice_iff]

end Display

/-! ### The answer to a request -/

/-- A consultation shows what comes of the inquiry. -/
theorem finish_consult (route : Route) :
    finish "GET" (d.consult w i.question (i.view d.thresholds) route.emptyView).response
      = (Display.ofOutcome (d.outcome w i)).response route := by
  unfold consult outcome
  cases (d.gateway.ask i.question w.exchange).bind (i.view d.thresholds) with
  | ok data => rfl
  | error fault => exact Display.finish_degraded fault route

variable {σ : Type} [KeyValueStore σ] {request : Request} {board : Board σ} {route : Route}

/-- The request is one for what the gateway knows: it makes an inquiry, and nothing is kept. -/
structure Consults (w : World) (request : Request) (board : Board σ) (route : Route)
    (i : Inquiry) : Prop where
  method_eq : request.method = "GET"
  path_eq : request.path = route.path
  read : Inquiry.read? w.now request.query route = some i
  kept : route = .models → board.models = none

omit [KeyValueStore σ] in
theorem Consults.dispatch_eq (h : Consults w request board route i) :
    dispatch request.method request.path = .ok route := by
  rw [h.method_eq, h.path_eq]
  exact dispatch_get_of_read h.read

theorem Consults.response_eq (h : Consults w request board route i) :
    (d.respond w request board).1.response
      = (Display.ofOutcome (d.outcome w i)).response route := by
  obtain ⟨board', hanswer⟩ := answerAt_of_read (d := d) (w := w) h.read h.kept
  rw [← finish_consult, respond_of_answer h.dispatch_eq hanswer, h.method_eq]

/--
**Every reply can be shown.**  A request for what the gateway knows is answered with what the
gateway gave or with the empty view of the place, whatever the reply is or if there is none; which
of them, and with which line, follows from the reply.  And two failures of one kind cannot be told
apart at a place, unless the gateway put them into words itself.
-/
theorem respond_shows (h : Consults w request board route i) :
    (∃ shown, Display.Explains d w i shown ∧
      (d.respond w request board).1.response = shown.response route) ∧
    ∀ {w' : World} {request' : Request} {board' : Board σ} {i' : Inquiry},
      Consults w' request' board' route i' → ∀ {fault fault' : GatewayFault},
        d.outcome w i = .error fault → d.outcome w' i' = .error fault' →
        fault.kind = fault'.kind → fault.kind ≠ "backend" →
        (d.respond w request board).1.response = (d.respond w' request' board').1.response := by
  constructor
  · exact ⟨_, Display.explains_ofOutcome, h.response_eq⟩
  · intro w' request' board' i' h' fault fault' hfault hfault' hkind hbackend
    rw [h.response_eq, h'.response_eq, hfault, hfault']
    show (Display.ofFault fault).response route = (Display.ofFault fault').response route
    rw [Display.ofFault_eq_of_kind hkind hbackend]

/-- A dashboard with a gateway to ask. -/
def sampleDashboard : Dashboard := { gateway := { baseUrl := "http://gateway" } }

/-- A dashboard with a token that cannot be sent. -/
def mutedDashboard : Dashboard :=
  { gateway := { baseUrl := "http://gateway", accessToken := some "a\nb" } }

theorem canSend_sample {path : String}
    (h : (Url.Address.parse (sampleDashboard.gateway.root ++ path)).toOption.isSome = true) :
    sampleDashboard.gateway.CanSend path := by
  obtain ⟨address, haddress⟩ := Option.isSome_iff_exists.mp h
  exact ⟨⟨address, eq_ok_of_toOption haddress⟩, by decide⟩

/-- A world in which a request comes to the given exchange. -/
def worldOf (x : Exchange) : World :=
  { now := 0, clock := 0, later := 0, collected := .error (.unavailable ""), exchange := x
    databaseAnswers := true }

/-- A request for the first page of the visitor ids that several users have. -/
def listing : Request := { path := "/v1/fingerprints/duplicates" }

/-- A refusal with a word of explanation, sent with a status that tells of success. -/
def refusal : List UInt8 := bytesOf "\x7b\"success\":false,\"message\":\"down\"\x7d"

/-- A board that keeps nothing. -/
def startBoard : Board MemoryStore := { store := KeyValueStore.fresh }

theorem respond_shows_listing :
    (∀ x, Consults (worldOf x) listing startBoard .duplicates (.duplicates ⟨none, none⟩)) ∧
      (sampleDashboard.respond (worldOf (.reply 200 refusal)) listing startBoard).1.response
        = (Display.ownWords "down").response .duplicates ∧
      (sampleDashboard.respond (worldOf (.reply 500 [])) listing startBoard).1.response
        = (sampleDashboard.respond (worldOf (.reply 503 [32])) listing startBoard).1.response := by
  have hasks : ∀ x, Consults (worldOf x) listing startBoard .duplicates
      (.duplicates ⟨none, none⟩) := fun _ => ⟨rfl, rfl, rfl, fun h => by cases h⟩
  have hreaches : (sampleDashboard.gateway.request?
      (Inquiry.duplicates ⟨none, none⟩).question).isSome = true := by decide +kernel
  have hdecode : ((Wire.decode refusal : Except Json.Complaint RawEnvelope).toOption.map
      fun e => (e.success, e.message)) = some (false, "down") := by decide +kernel
  refine ⟨hasks, ?_, ?_⟩
  · obtain ⟨⟨shown, hshown, hresponse⟩, -⟩ :=
      respond_shows (d := sampleDashboard) (hasks (.reply 200 refusal))
    obtain ⟨envelope, henvelope, hparts⟩ := Option.map_eq_some_iff.mp hdecode
    obtain ⟨hsuccess, hmessage⟩ := Prod.mk.inj hparts
    have hrefuses : (Exchange.reply 200 refusal).Refuses "down" :=
      ⟨200, refusal, envelope, rfl, eq_ok_of_toOption henvelope, hsuccess, hmessage⟩
    have hwords : shown = .ownWords "down" :=
      (hshown.ownWords "down").mpr ⟨hreaches, hrefuses, by decide +kernel⟩
    rw [hresponse, hwords]
  · have houtcome : ∀ status body, (Exchange.reply status body).data = .error (.status status) →
        sampleDashboard.outcome (worldOf (.reply status body)) (.duplicates ⟨none, none⟩)
          = .error (.status status) := fun status body hdata =>
      outcome_eq_status_iff.mpr (Gateway.ask_eq_error_of_data hreaches hdata)
    exact (respond_shows (hasks (.reply 500 []))).2 (hasks (.reply 503 [32]))
      (houtcome 500 [] rfl) (houtcome 503 [32] rfl) rfl (by decide)

end HealthBoard.Dashboard
