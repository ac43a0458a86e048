/-
The five things that a reply can be.

A reply did not come, refuses, tells of an error by its status, is no envelope, or delivers data.
Each of these is said of the status and the body alone, in the order in which one takes precedence
over the next, and `data_cases` says that there is no sixth.  What a question makes of a reply then
follows by going through the five: only of delivered data does a question have anything to say.
-/
import HealthBoard.Proofs.Gateway.Exchange

namespace HealthBoard

namespace Exchange

/-- No complete reply came. -/
def Missing (x : Exchange) : Prop := x.finalReply? = none

/-- The gateway does not refuse, but the status tells of an error. -/
def Fails (x : Exchange) (code : Nat) : Prop :=
  (∃ body, x.finalReply? = some (code, body)) ∧ ¬(200 ≤ code ∧ code < 300) ∧
    ∀ message, ¬ x.Refuses message

/-- The status tells of a success, but the body is no envelope. -/
def Garbled (x : Exchange) : Prop :=
  ∃ (status : Nat) (body : List UInt8) (complaint : Json.Complaint),
    x.finalReply? = some (status, body) ∧ 200 ≤ status ∧ status < 300 ∧
      (Wire.decode body : Except Json.Complaint RawEnvelope) = .error complaint

/-- Status and envelope tell of a success, and these are the data in the envelope. -/
def Delivers (x : Exchange) (data : Json) : Prop :=
  ∃ (status : Nat) (body : List UInt8) (envelope : RawEnvelope),
    x.finalReply? = some (status, body) ∧ 200 ≤ status ∧ status < 300 ∧
      (Wire.decode body : Except Json.Complaint RawEnvelope) = .ok envelope ∧
      envelope.success = true ∧ envelope.data = data

theorem isSuccess_iff {status : Nat} : isSuccess status = true ↔ 200 ≤ status ∧ status < 300 := by
  simp [isSuccess]

/-- An envelope that does not refuse tells of a success. -/
private theorem success_of_not_refuses {x : Exchange} {status : Nat} {body : List UInt8}
    {envelope : RawEnvelope} (hreply : x.finalReply? = some (status, body))
    (h : ∀ message, ¬ x.Refuses message)
    (hbody : (Wire.decode body : Except Json.Complaint RawEnvelope) = .ok envelope) :
    envelope.success = true := by
  cases hsuccess : envelope.success with
  | true => rfl
  | false =>
      exact absurd ⟨status, body, envelope, hreply, hbody, hsuccess, rfl⟩ (h envelope.message)

/-! ### What the program makes of each -/

theorem Missing.data_eq {x : Exchange} (h : x.Missing) : x.data = .error .transport := by
  have hreply : x.finalReply? = none := h
  rw [Exchange.data, hreply]

theorem Fails.data_eq {x : Exchange} {code : Nat} (h : x.Fails code) :
    x.data = .error (.status code) := by
  obtain ⟨⟨body, hreply⟩, hstatus, hrefuses⟩ := h
  rw [← isSuccess_iff, Bool.not_eq_true] at hstatus
  rw [Exchange.data, hreply]
  cases hbody : (Wire.decode body : Except Json.Complaint RawEnvelope) with
  | error complaint => simp [hbody, hstatus]
  | ok envelope =>
      have hsuccess : envelope.success = true := success_of_not_refuses hreply hrefuses hbody
      simp [hbody, hstatus, hsuccess]

theorem Garbled.data_eq {x : Exchange} (h : x.Garbled) :
    ∃ detail, x.data = .error (.shape detail) := by
  obtain ⟨status, body, complaint, hreply, hleast, hgreatest, hbody⟩ := h
  have hstatus : isSuccess status = true := isSuccess_iff.mpr ⟨hleast, hgreatest⟩
  refine ⟨"invalid envelope: " ++ complaint.message body, ?_⟩
  rw [Exchange.data, hreply]
  simp [hbody, hstatus]

theorem Delivers.data_eq {x : Exchange} {data : Json} (h : x.Delivers data) :
    x.data = .ok data := by
  obtain ⟨status, body, envelope, hreply, hleast, hgreatest, hbody, hsuccess, rfl⟩ := h
  have hstatus : isSuccess status = true := isSuccess_iff.mpr ⟨hleast, hgreatest⟩
  rw [Exchange.data, hreply]
  simp [hbody, hsuccess, hstatus]

/-- **There are five kinds of replies, no reply included.** -/
theorem data_cases (x : Exchange) :
    (x.Missing ∧ x.data = .error .transport) ∨
    (∃ message, x.Refuses message ∧ x.data = .error (.backend message)) ∨
    (∃ code, x.Fails code ∧ x.data = .error (.status code)) ∨
    (x.Garbled ∧ ∃ detail, x.data = .error (.shape detail)) ∨
    ∃ data, x.Delivers data ∧ x.data = .ok data := by
  cases hreply : x.finalReply? with
  | none =>
      have h : x.Missing := hreply
      exact .inl ⟨h, h.data_eq⟩
  | some reply =>
      obtain ⟨status, body⟩ := reply
      by_cases hrefuses : ∃ message, x.Refuses message
      · obtain ⟨message, h⟩ := hrefuses
        exact .inr (.inl ⟨message, h, data_eq_backend_iff.mpr h⟩)
      · have hnot : ∀ message, ¬ x.Refuses message := not_exists.mp hrefuses
        by_cases hstatus : 200 ≤ status ∧ status < 300
        · cases hbody : (Wire.decode body : Except Json.Complaint RawEnvelope) with
          | error complaint =>
              have h : x.Garbled :=
                ⟨status, body, complaint, hreply, hstatus.1, hstatus.2, hbody⟩
              exact .inr (.inr (.inr (.inl ⟨h, h.data_eq⟩)))
          | ok envelope =>
              have hsuccess : envelope.success = true := success_of_not_refuses hreply hnot hbody
              have h : x.Delivers envelope.data :=
                ⟨status, body, envelope, hreply, hstatus.1, hstatus.2, hbody, hsuccess, rfl⟩
              exact .inr (.inr (.inr (.inr ⟨_, h, h.data_eq⟩)))
        · have h : x.Fails status := ⟨⟨body, hreply⟩, hstatus, hnot⟩
          exact .inr (.inr (.inl ⟨status, h, h.data_eq⟩))

theorem data_eq_transport_iff {x : Exchange} : x.data = .error .transport ↔ x.Missing := by
  refine ⟨fun hdata => ?_, Missing.data_eq⟩
  rcases x.data_cases with ⟨h, -⟩ | ⟨_, -, h⟩ | ⟨_, -, h⟩ | ⟨-, _, h⟩ | ⟨_, -, h⟩
  · exact h
  all_goals
    rw [h] at hdata
    cases hdata

theorem data_eq_status_iff {x : Exchange} {code : Nat} :
    x.data = .error (.status code) ↔ x.Fails code := by
  refine ⟨fun hdata => ?_, Fails.data_eq⟩
  rcases x.data_cases with ⟨-, h⟩ | ⟨_, -, h⟩ | ⟨_, hfails, h⟩ | ⟨-, _, h⟩ | ⟨_, -, h⟩
  case inr.inr.inl =>
    rw [h] at hdata
    cases hdata
    exact hfails
  all_goals
    rw [h] at hdata
    cases hdata

theorem data_eq_shape_iff {x : Exchange} :
    (∃ detail, x.data = .error (.shape detail)) ↔ x.Garbled := by
  refine ⟨fun ⟨detail, hdata⟩ => ?_, Garbled.data_eq⟩
  rcases x.data_cases with ⟨-, h⟩ | ⟨_, -, h⟩ | ⟨_, -, h⟩ | ⟨hgarbled, -⟩ | ⟨_, -, h⟩
  case inr.inr.inr.inl => exact hgarbled
  all_goals
    rw [h] at hdata
    cases hdata

theorem data_eq_ok_iff {x : Exchange} {data : Json} : x.data = .ok data ↔ x.Delivers data := by
  refine ⟨fun hdata => ?_, Delivers.data_eq⟩
  rcases x.data_cases with ⟨-, h⟩ | ⟨_, -, h⟩ | ⟨_, -, h⟩ | ⟨-, _, h⟩ | ⟨_, hdelivers, h⟩
  case inr.inr.inr.inr =>
    rw [h] at hdata
    cases hdata
    exact hdelivers
  all_goals
    rw [h] at hdata
    cases hdata

end Exchange

/-! ### What a question makes of a reply -/

namespace Question

variable {α : Type} {q : Question α} {x : Exchange}

theorem judge_eq_ok_iff {a : α} :
    q.judge x = .ok a ↔ ∃ data, x.Delivers data ∧ q.read data = .ok a := by
  simp only [← Exchange.data_eq_ok_iff]
  unfold judge
  cases x.data with
  | error fault => simp [bind, Except.bind]
  | ok data => simp [bind, Except.bind]

/-- A fault that is no complaint about the form is a fault of the reply. -/
theorem OnlyForm.judge_eq_error_iff (hq : q.OnlyForm) {fault : GatewayFault}
    (h : ∀ detail, fault ≠ .shape detail) :
    q.judge x = .error fault ↔ x.data = .error fault := by
  unfold judge
  cases x.data with
  | error fault' => simp [bind, Except.bind]
  | ok data =>
      constructor
      · intro hread
        obtain ⟨detail, hshape⟩ := hq data fault hread
        exact absurd hshape (h detail)
      · intro hdata
        cases hdata

/-- The form is complained about if there is no envelope, or no answer in the data of one. -/
theorem OnlyForm.judge_eq_shape_iff (hq : q.OnlyForm) :
    (∃ detail, q.judge x = .error (.shape detail)) ↔
      x.Garbled ∨ ∃ data, x.Delivers data ∧ ∀ a, q.read data ≠ .ok a := by
  simp only [← Exchange.data_eq_shape_iff, ← Exchange.data_eq_ok_iff]
  unfold judge
  cases x.data with
  | error fault => simp [bind, Except.bind]
  | ok data =>
      show (∃ detail, q.read data = .error (.shape detail)) ↔ _
      cases hread : q.read data with
      | ok a => simp [hread]
      | error fault =>
          obtain ⟨detail, rfl⟩ := hq data fault hread
          simp [hread]

end Question

/-- A question that can be sent is answered by what comes of its request. -/
theorem Gateway.ask_of_request {α : Type} {g : Gateway} {q : Question α}
    {request : GatewayRequest} (h : g.request? q = some request) (x : Exchange) :
    g.ask q x = q.judge x := by
  unfold Gateway.ask
  rw [h]

/-- There is an answer exactly if the question can be sent and the data delivered have its form. -/
theorem Gateway.ask_eq_ok_iff {α : Type} {g : Gateway} {q : Question α} {x : Exchange} {a : α} :
    g.ask q x = .ok a ↔
      (g.request? q).isSome ∧ ∃ data, x.Delivers data ∧ q.read data = .ok a := by
  cases hrequest : g.request? q with
  | none => simp [ask, hrequest]
  | some request => simp [Gateway.ask_of_request hrequest, Question.judge_eq_ok_iff]

end HealthBoard
