/-
What a reply can come to.

Only the reply counts that stands at the end of the redirects.  The gateway's own refusal is decided
before anything else about a reply, so it depends on the bytes of the body and on nothing else:
neither the status nor the question plays a part.  A question in turn can only complain about the
form of data that were had.  Together the two say where each kind of fault comes from, and in
particular that a message shown as the gateway's own was the message of an envelope that the gateway
sent.
-/
import HealthBoard.Gateway.Exchange
import HealthBoard.Proofs.Except

namespace HealthBoard

/-! ### Refusals -/

/-- The reply is an envelope that tells of a failure, with the given message. -/
def Exchange.Refuses (x : Exchange) (message : String) : Prop :=
  ∃ (status : Nat) (body : List UInt8) (envelope : RawEnvelope),
    x.finalReply? = some (status, body) ∧
      (Wire.decode body : Except Json.Complaint RawEnvelope) = .ok envelope ∧
      envelope.success = false ∧ envelope.message = message

theorem Exchange.data_eq_backend_iff {x : Exchange} {message : String} :
    x.data = .error (.backend message) ↔ x.Refuses message := by
  constructor
  · intro h
    rw [Exchange.data] at h
    cases hreply : x.finalReply? with
    | none =>
        rw [hreply] at h
        cases h
    | some reply =>
        obtain ⟨status, body⟩ := reply
        simp only [hreply] at h
        cases hbody : (Wire.decode body : Except Json.Complaint RawEnvelope) with
        | error complaint =>
            simp only [hbody] at h
            by_cases hstatus : isSuccess status
            · simp [hstatus] at h
            · simp [hstatus] at h
        | ok envelope =>
            simp only [hbody] at h
            by_cases hsuccess : envelope.success
            · by_cases hstatus : isSuccess status
              · simp [hsuccess, hstatus] at h
              · simp [hsuccess, hstatus] at h
            · simp only [hsuccess, Bool.not_false, if_true, Except.error.injEq,
                GatewayFault.backend.injEq] at h
              exact ⟨status, body, envelope, hreply, hbody, by simpa using hsuccess, h⟩
  · rintro ⟨status, body, envelope, hreply, hbody, hsuccess, rfl⟩
    rw [Exchange.data]
    simp [hreply, hbody, hsuccess]

/-! ### Questions that look at the form only -/

namespace Question

variable {α : Type}

/-- Whatever the data are, the question complains about nothing but their form. -/
def OnlyForm (q : Question α) : Prop :=
  ∀ (data : Json) (fault : GatewayFault), q.read data = .error fault →
    ∃ detail, fault = .shape detail

theorem readAs_onlyForm {α : Type} [Wire α] {what : String} {data : Json} {fault : GatewayFault}
    (h : readAs α what data = .error fault) : ∃ detail, fault = .shape detail := by
  unfold readAs at h
  cases hconvert : (Wire.convert data : Except Json.Mismatch α) with
  | ok a => simp [hconvert] at h
  | error m =>
      simp only [hconvert, Except.error.injEq] at h
      exact ⟨_, h.symm⟩

theorem readPage_onlyForm {α : Type} [Wire α] {data : Json} {fault : GatewayFault}
    (h : readPage α data = .error fault) : ∃ detail, fault = .shape detail := by
  unfold readPage at h
  split at h
  · cases h
  · exact readAs_onlyForm h
  · exact ⟨_, (Except.error.inj h).symm⟩

theorem hourlyHealth_onlyForm (modelName : String) (window : HourWindow) :
    (hourlyHealth modelName window).OnlyForm := by
  intro data fault h
  simp only [hourlyHealth, get] at h
  split at h
  · exact readAs_onlyForm h
  · exact ⟨_, (Except.error.inj h).symm⟩

theorem publicHourly_onlyForm : publicHourly.OnlyForm := by
  intro data fault h
  simp only [publicHourly, get] at h
  split at h
  · exact readAs_onlyForm h
  · exact ⟨_, (Except.error.inj h).symm⟩

theorem enabledModels_onlyForm : enabledModels.OnlyForm := by
  intro data fault h
  simp only [enabledModels, get, ModelList.ofJson] at h
  split at h
  · cases h
  · exact ⟨_, (Except.error.inj h).symm⟩

theorem fingerprints_onlyForm (keyword : String) (page size : Int64) :
    (fingerprints keyword page size).OnlyForm :=
  fun _ _ h => readPage_onlyForm h

theorem duplicateVisitors_onlyForm (page size : Int64) : (duplicateVisitors page size).OnlyForm :=
  fun _ _ h => readPage_onlyForm h

theorem usersByVisitor_onlyForm (visitorId : String) (ip : Option String) (page size : Int64) :
    (usersByVisitor visitorId ip page size).OnlyForm :=
  fun _ _ h => readPage_onlyForm h

/-- A question that looks at the form only is refused exactly if the gateway refuses. -/
theorem OnlyForm.judge_eq_backend_iff {q : Question α} (hq : q.OnlyForm) {x : Exchange}
    {message : String} : q.judge x = .error (.backend message) ↔ x.Refuses message := by
  rw [← Exchange.data_eq_backend_iff]
  unfold Question.judge
  cases x.data with
  | error fault =>
      show (Except.error fault : Except GatewayFault α) = _ ↔ _
      rw [Except.error.injEq, Except.error.injEq]
  | ok data =>
      constructor
      · intro h
        obtain ⟨detail, hshape⟩ := hq data _ h
        cases hshape
      · intro h
        cases h

end Question

/-! ### Asking -/

/-- A request can be made for a place: its address reads, and the token can be a header. -/
def Gateway.CanSend (g : Gateway) (path : String) : Prop :=
  (∃ address, Url.Address.parse (g.root ++ path) = .ok address) ∧ g.authorization ≠ none

/-- Then there is a request for every question at the place, whatever its parameters are. -/
theorem Gateway.CanSend.request?_eq {α : Type} {g : Gateway} {q : Question α}
    (h : g.CanSend q.path) :
    ∃ request address, g.request? q = some request ∧
      Url.Address.parse (g.root ++ q.path) = .ok address ∧
      request.method = q.method ∧ request.body = q.body ∧
      request.address =
        if q.parameters.isEmpty then address else address.withParameters q.parameters := by
  obtain ⟨⟨address, haddress⟩, hauthorization⟩ := h
  obtain ⟨authorization, hauthorization⟩ := Option.ne_none_iff_exists'.mp hauthorization
  unfold Gateway.request? Gateway.address?
  rw [haddress, hauthorization]
  exact ⟨_, address, rfl, rfl, rfl, rfl, rfl⟩

/-- The answer is the gateway's refusal exactly if the question reaches it and it refuses. -/
theorem Gateway.ask_eq_backend_iff {α : Type} {g : Gateway} {q : Question α} (hq : q.OnlyForm)
    {x : Exchange} {message : String} :
    g.ask q x = .error (.backend message) ↔ (g.request? q).isSome ∧ x.Refuses message := by
  unfold Gateway.ask
  cases g.request? q with
  | none => simp
  | some request => simp [hq.judge_eq_backend_iff]

/-- A question that reaches the gateway gets whatever fault the reply has. -/
theorem Gateway.ask_eq_error_of_data {α : Type} {g : Gateway} {q : Question α} {x : Exchange}
    {fault : GatewayFault} (hreaches : (g.request? q).isSome) (hdata : x.data = .error fault) :
    g.ask q x = .error fault := by
  obtain ⟨request, hrequest⟩ := Option.isSome_iff_exists.mp hreaches
  unfold Gateway.ask
  rw [hrequest]
  show q.judge x = _
  unfold Question.judge
  rw [hdata]
  rfl

end HealthBoard
