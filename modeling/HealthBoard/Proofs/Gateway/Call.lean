/-
What comes of calling the gateway.

There are seven calls.  They differ in what they send and in the data they take, and not in how a
reply is judged: the five kinds of replies of `Exchange.data_cases` give the five results, in the
same order for every call.  What data a call takes is said by `Holds`, without the program; each
call agrees with it (`read_eq_ok_iff`), and `ask_classifies` puts the two together.
-/
import HealthBoard.Proofs.Gateway.ModelList
import HealthBoard.Proofs.Gateway.Redirect
import HealthBoard.Proofs.Gateway.Reply
import Mathlib.Data.List.Forall2

namespace HealthBoard

/-- A call of the gateway with its arguments. -/
inductive Call where
  | hourlyHealth (modelName : String) (window : HourWindow)
  | publicHourly
  | enabledModels
  | recordFingerprint (visitorId : String)
  | fingerprints (keyword : String) (page size : Int64)
  | duplicateVisitors (page size : Int64)
  | usersByVisitor (visitorId : String) (ip : Option String) (page size : Int64)

namespace Call

/-- What the call gives. -/
def Answer : Call → Type
  | .hourlyHealth .. => List HourlyRecord
  | .publicHourly => PublicHourlyPayload
  | .enabledModels => List String
  | .recordFingerprint _ => Unit
  | .fingerprints .. | .usersByVisitor .. => Page FingerprintUser
  | .duplicateVisitors .. => Page DuplicateVisitor

def question : (c : Call) → Question c.Answer
  | .hourlyHealth modelName window => .hourlyHealth modelName window
  | .publicHourly => .publicHourly
  | .enabledModels => .enabledModels
  | .recordFingerprint visitorId => .recordFingerprint visitorId
  | .fingerprints keyword page size => .fingerprints keyword page size
  | .duplicateVisitors page size => .duplicateVisitors page size
  | .usersByVisitor visitorId ip page size => .usersByVisitor visitorId ip page size

/-! ### The data of each call -/

/-- A list whose items are the records, each for itself. -/
def HoldsRecords (data : Json) (records : List HourlyRecord) : Prop :=
  ∃ items, data = .arr items ∧
    List.Forall₂ (fun item record =>
      (Wire.convert item : Except Json.Mismatch HourlyRecord) = .ok record) items records

/-- An object that the payload can be taken out of. -/
def HoldsPayload (data : Json) (payload : PublicHourlyPayload) : Prop :=
  (∃ members, data = .obj members) ∧
    (Wire.convert data : Except Json.Mismatch PublicHourlyPayload) = .ok payload

/-- A page, or nothing at all, which stands for the page of a listing that was not given. -/
def HoldsPage {α : Type} [Wire α] (data : Json) (page : Page α) : Prop :=
  (data = .null ∧ page = .none) ∨
    (∃ members, data = .obj members) ∧
      (Wire.convert data : Except Json.Mismatch (Page α)) = .ok page

/-- The data have the form that the call wants, and mean the answer. -/
def Holds : (c : Call) → Json → c.Answer → Prop
  | .hourlyHealth .., data, records => HoldsRecords data records
  | .publicHourly, data, payload => HoldsPayload data payload
  | .enabledModels, data, names => ModelList.Holds data names
  | .recordFingerprint _, _, _ => True
  | .fingerprints .., data, page | .usersByVisitor .., data, page =>
      HoldsPage (α := FingerprintUser) data page
  | .duplicateVisitors .., data, page => HoldsPage (α := DuplicateVisitor) data page

end Call

/-! ### Taking values out of data -/

theorem convertAll_eq_ok_iff {α : Type} {item : Json → Except Json.Mismatch α}
    {items : List Json} : ∀ {values : List α},
      Json.convertAll item items = .ok values ↔
        List.Forall₂ (fun j a => item j = .ok a) items values := by
  induction items with
  | nil => intro values; cases values <;> simp [Json.convertAll]
  | cons j rest ih =>
      intro values
      rw [Json.convertAll]
      cases hitem : item j with
      | error m => cases values <;> simp [bind, Except.bind, hitem]
      | ok a =>
          cases hrest : Json.convertAll item rest with
          | error m => cases values <;> simp [bind, Except.bind, ← ih, hitem, hrest]
          | ok as =>
              cases values <;> simp [bind, Except.bind, pure, Except.pure, ← ih, hitem, hrest]

private theorem map_convertAll {α β : Type} (item : Json → Except Json.Mismatch α) (f : α → β)
    (items : List Json) : (Json.convertAll item items).map (List.map f)
      = Json.convertAll (fun j => (item j).map f) items := by
  induction items with
  | nil => rfl
  | cons j rest ih =>
      rw [Json.convertAll, Json.convertAll, ← ih]
      cases item j with
      | error m => rfl
      | ok a => cases Json.convertAll item rest <;> rfl

/-- A list is taken item by item. -/
theorem convert_list_eq_ok_iff {α : Type} [Wire α] {items : List Json} {values : List α} :
    (Wire.convert (.arr items) : Except Json.Mismatch (List α)) = .ok values ↔
      List.Forall₂ (fun item value => (Wire.convert item : Except Json.Mismatch α) = .ok value)
        items values := by
  have h : (Wire.convert (.arr items) : Except Json.Mismatch (List α))
      = Json.convertAll (fun item => (Wire.convert item : Except Json.Mismatch α)) items := by
    show ((Json.Shape.list (Wire.shape α)).convert (.arr items)).map (List.map Wire.take) = _
    rw [Json.Shape.convert]
    exact map_convertAll _ _ _
  rw [h, convertAll_eq_ok_iff]

namespace Question

theorem readAs_eq_ok_iff {α : Type} [Wire α] {what : String} {data : Json} {a : α} :
    readAs α what data = .ok a ↔ (Wire.convert data : Except Json.Mismatch α) = .ok a := by
  unfold readAs
  cases (Wire.convert data : Except Json.Mismatch α) with
  | ok b => simp
  | error m => simp

theorem read_hourlyHealth_eq_ok_iff {modelName : String} {window : HourWindow} {data : Json}
    {records : List HourlyRecord} :
    (hourlyHealth modelName window).read data = .ok records ↔ Call.HoldsRecords data records := by
  unfold Call.HoldsRecords
  cases data with
  | arr items =>
      show readAs (List HourlyRecord) "hourly records" (.arr items) = .ok records ↔ _
      rw [readAs_eq_ok_iff, convert_list_eq_ok_iff]
      simp
  | _ => simp [hourlyHealth, get]

theorem read_publicHourly_eq_ok_iff {data : Json} {payload : PublicHourlyPayload} :
    publicHourly.read data = .ok payload ↔ Call.HoldsPayload data payload := by
  unfold Call.HoldsPayload
  cases data with
  | obj members =>
      show readAs PublicHourlyPayload "public hourly payload" (.obj members) = .ok payload ↔ _
      rw [readAs_eq_ok_iff]
      simp
  | _ => simp [publicHourly, get]

theorem readPage_eq_ok_iff {α : Type} [Wire α] {data : Json} {page : Page α} :
    readPage α data = .ok page ↔ Call.HoldsPage data page := by
  unfold readPage Call.HoldsPage
  cases data with
  | null => simp [eq_comm]
  | obj members => simp [readAs_eq_ok_iff]
  | _ => simp

/-- Recording has no form that it wants, so there is nothing to complain about. -/
theorem recordFingerprint_onlyForm (visitorId : String) : (recordFingerprint visitorId).OnlyForm :=
  fun _ _ h => by cases h

end Question

namespace Call

/-! ### Each call agrees with its form -/

/-- No call complains about anything but the form of the data. -/
theorem question_onlyForm : ∀ c : Call, c.question.OnlyForm
  | .hourlyHealth _ _ => Question.hourlyHealth_onlyForm _ _
  | .publicHourly => Question.publicHourly_onlyForm
  | .enabledModels => Question.enabledModels_onlyForm
  | .recordFingerprint _ => Question.recordFingerprint_onlyForm _
  | .fingerprints .. => Question.fingerprints_onlyForm _ _ _
  | .duplicateVisitors .. => Question.duplicateVisitors_onlyForm _ _
  | .usersByVisitor .. => Question.usersByVisitor_onlyForm _ _ _ _

theorem read_eq_ok_iff (c : Call) {data : Json} {answer : c.Answer} :
    c.question.read data = .ok answer ↔ c.Holds data answer := by
  cases c with
  | hourlyHealth modelName window => exact Question.read_hourlyHealth_eq_ok_iff
  | publicHourly => exact Question.read_publicHourly_eq_ok_iff
  | enabledModels => exact ModelList.ofJson_eq_ok_iff
  | recordFingerprint visitorId => exact ⟨fun _ => trivial, fun _ => rfl⟩
  | fingerprints keyword page size => exact Question.readPage_eq_ok_iff
  | duplicateVisitors page size => exact Question.readPage_eq_ok_iff
  | usersByVisitor visitorId ip page size => exact Question.readPage_eq_ok_iff

/-! ### What a call comes to -/

/--
The result is the one that the reply has coming.  The five conditions are about the reply alone, and
exactly one of them holds.
-/
structure Classifies (c : Call) (x : Exchange) (result : Except GatewayFault c.Answer) :
    Prop where
  transport : result = .error .transport ↔ x.Missing
  /-- The gateway's own word comes before the status. -/
  backend : ∀ message, result = .error (.backend message) ↔ x.Refuses message
  status : ∀ code, result = .error (.status code) ↔ x.Fails code
  shape : (∃ detail, result = .error (.shape detail)) ↔
    x.Garbled ∨ ∃ data, x.Delivers data ∧ ∀ answer, ¬ c.Holds data answer
  ok : ∀ answer, result = .ok answer ↔ ∃ data, x.Delivers data ∧ c.Holds data answer

theorem classifies_judge (c : Call) (x : Exchange) : c.Classifies x (c.question.judge x) where
  transport := by
    rw [c.question_onlyForm.judge_eq_error_iff (by simp), Exchange.data_eq_transport_iff]
  backend message := c.question_onlyForm.judge_eq_backend_iff
  status code := by
    rw [c.question_onlyForm.judge_eq_error_iff (by simp), Exchange.data_eq_status_iff]
  shape := by
    simp only [c.question_onlyForm.judge_eq_shape_iff, Ne, read_eq_ok_iff]
  ok answer := by
    simp only [Question.judge_eq_ok_iff, read_eq_ok_iff]

/--
What a call makes of delivered data in the cases where its decoder alone would not decide: recording
takes anything, a listing takes `null`, and the two calls for records look at the outermost brackets
before anything is decoded.
-/
def Decides : (c : Call) → Json → Except GatewayFault c.Answer → Prop
  | .hourlyHealth .., data, result =>
      (∀ items, data ≠ .arr items) → ∃ detail, result = .error (.shape detail)
  | .publicHourly, data, result =>
      (∀ members, data ≠ .obj members) → ∃ detail, result = .error (.shape detail)
  | .enabledModels, _, _ => True
  | .recordFingerprint _, _, result => result = .ok ()
  | .fingerprints .., data, result | .usersByVisitor .., data, result =>
      data = .null → result = .ok (Page.none : Page FingerprintUser)
  | .duplicateVisitors .., data, result =>
      data = .null → result = .ok (Page.none : Page DuplicateVisitor)

theorem Classifies.decides {c : Call} {x : Exchange} {result : Except GatewayFault c.Answer}
    (h : c.Classifies x result) {data : Json} (hdata : x.Delivers data) :
    c.Decides data result := by
  cases c with
  | hourlyHealth modelName window =>
      intro hnot
      refine h.shape.mpr (.inr ⟨data, hdata, ?_⟩)
      rintro records ⟨items, heq, -⟩
      exact hnot items heq
  | publicHourly =>
      intro hnot
      refine h.shape.mpr (.inr ⟨data, hdata, ?_⟩)
      rintro payload ⟨⟨members, heq⟩, -⟩
      exact hnot members heq
  | enabledModels => trivial
  | recordFingerprint visitorId => exact (h.ok ()).mpr ⟨data, hdata, trivial⟩
  | fingerprints keyword page size =>
      intro hnull
      exact (h.ok _).mpr ⟨data, hdata, .inl ⟨hnull, rfl⟩⟩
  | duplicateVisitors page size =>
      intro hnull
      exact (h.ok _).mpr ⟨data, hdata, .inl ⟨hnull, rfl⟩⟩
  | usersByVisitor visitorId ip page size =>
      intro hnull
      exact (h.ok _).mpr ⟨data, hdata, .inl ⟨hnull, rfl⟩⟩

end Call

/--
**Every reply to a call is judged in one way.**  A call that can be sent is sent once, whatever
comes of it, and followed where its replies send it on; without a redirect one request is all there
is.  The result is the one of the five that the last reply has coming.
-/
theorem ask_classifies {g : Gateway} {c : Call} {request : GatewayRequest}
    (hsend : g.request? c.question = some request) (x : Exchange) :
    c.Classifies x (g.ask c.question x) ∧
      x.Leads request (g.received c.question x) ∧
      ∀ data, x.Delivers data → c.Decides data (g.ask c.question x) := by
  have hresult : c.Classifies x (g.ask c.question x) := by
    rw [Gateway.ask_of_request hsend]
    exact c.classifies_judge x
  exact ⟨hresult, Gateway.received_of_request hsend, fun _ hdata => hresult.decides hdata⟩

/-- A gateway without a token. -/
def openGateway : Gateway := { baseUrl := "http://gateway" }

/-- A success whose data list the two hours of a payload without their names. -/
def namelessReply : List UInt8 := bytesOf "\x7b\"success\":true,\"data\":[3600,7200]\x7d"

/-- The numbers in a list of two. -/
def twoNumbers? : Json → Option (Int × Int)
  | .arr [.int first, .int second] => some (first, second)
  | _ => none

theorem twoNumbers?_eq_some {data : Json} {first second : Int}
    (h : twoNumbers? data = some (first, second)) : data = .arr [.int first, .int second] := by
  unfold twoNumbers? at h
  split at h
  · cases h
    rfl
  · cases h

/-- A payload could be taken out of the list, but the call does not take a list. -/
theorem ask_classifies_nameless :
    (openGateway.request? Call.publicHourly.question).isSome ∧
      (Exchange.reply 200 namelessReply).Delivers (.arr [.int 3600, .int 7200]) ∧
      (Wire.convert (.arr [.int 3600, .int 7200]) : Except Json.Mismatch PublicHourlyPayload)
        = .ok ⟨3600, 7200, []⟩ ∧
      (openGateway.received Call.publicHourly.question (.reply 200 namelessReply)).length = 1 ∧
      ∃ detail, openGateway.ask Call.publicHourly.question (.reply 200 namelessReply)
        = .error (.shape detail) := by
  have hsend : (openGateway.request? Call.publicHourly.question).isSome := by decide +kernel
  have hdecode : (Wire.decode namelessReply : Except Json.Complaint RawEnvelope).toOption.map
      (fun e => (e.success, twoNumbers? e.data)) = some (true, some (3600, 7200)) := by
    decide +kernel
  have hdelivers : (Exchange.reply 200 namelessReply).Delivers (.arr [.int 3600, .int 7200]) := by
    obtain ⟨envelope, henvelope, hparts⟩ := Option.map_eq_some_iff.mp hdecode
    obtain ⟨hsuccess, hdata⟩ := Prod.mk.inj hparts
    exact ⟨200, namelessReply, envelope, rfl, by decide, by decide,
      eq_ok_of_toOption henvelope, hsuccess, twoNumbers?_eq_some hdata⟩
  obtain ⟨request, hrequest⟩ := Option.isSome_iff_exists.mp hsend
  obtain ⟨-, hleads, hdecides⟩ := ask_classifies hrequest (.reply 200 namelessReply)
  refine ⟨hsend, hdelivers, rfl, ?_, ?_⟩
  · rw [hleads.eq_singleton (Exchange.isDirect_reply 200 _) (by decide)]
    rfl
  · exact hdecides _ hdelivers fun members h => by cases h

/-- A success without data. -/
def bareSuccess : List UInt8 := bytesOf "\x7b\"success\":true\x7d"

/-- A refusal without a word of explanation. -/
def bareRefusal : List UInt8 := bytesOf "\x7b\"success\":false\x7d"

/-- A call whose first reply has the status 302 is not lost: a second request is sent, which no
longer carries what was to be recorded, and its success is that of the call.  And a refusal behind a
head with the status 304 is not read. -/
theorem ask_classifies_sentOn :
    (openGateway.received (Call.recordFingerprint "v").question (sentOn bareSuccess)).map
        (fun r => (r.method, r.address.path, r.body.isSome))
        = [(.post, "/api/fingerprint/record".toList, true), (.get, "/elsewhere".toList, false)] ∧
      openGateway.ask (Call.recordFingerprint "v").question (sentOn bareSuccess) = .ok () ∧
      ((Wire.decode bareRefusal : Except Json.Complaint RawEnvelope).toOption.map (·.success)
        = some false) ∧
      openGateway.ask (Call.recordFingerprint "v").question (.reply 304 bareRefusal)
        = .error (.status 304) := by
  have hanswer : (openGateway.ask (.recordFingerprint "v") (sentOn bareSuccess)).toOption
      = some () := by
    decide +kernel
  have hsend : (openGateway.request? (Call.recordFingerprint "v").question).isSome = true := by
    decide +kernel
  exact ⟨by decide +kernel, eq_ok_of_toOption hanswer, by decide +kernel,
    Gateway.ask_eq_error_of_data hsend rfl⟩

end HealthBoard
