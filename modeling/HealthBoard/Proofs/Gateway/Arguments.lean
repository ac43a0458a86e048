/-
What a call is given reaches the gateway as it was given.

The place of a call follows from its kind and, for a listing of fingerprints, from whether a keyword
was given; everything else that a call is given travels in the parameters or in the body.  Both are
written so that they can be read back, and the target has no other question mark than the one
before the parameters.  So no text can become a parameter of its own, end one early or move the
request to another place, and the slashes at the end of the gateway's address make no difference.
-/
import HealthBoard.Proofs.Decimal
import HealthBoard.Proofs.Gateway.Call
import HealthBoard.Proofs.Gateway.Passing
import HealthBoard.Proofs.Json.ReadBack

namespace HealthBoard

namespace Call

/-- Where the call is made, as seen from the gateway's address. -/
def place : Call → String
  | .hourlyHealth .. => "/api/model_health/hourly"
  | .publicHourly => "/api/public/model_health/hourly_last24h"
  | .enabledModels => "/api/channel/models_enabled"
  | .recordFingerprint _ => "/api/fingerprint/record"
  | .fingerprints keyword _ _ =>
      if Text.trim keyword = "" then "/api/fingerprint/" else "/api/fingerprint/search"
  | .duplicateVisitors .. => "/api/fingerprint/duplicates"
  | .usersByVisitor .. => "/api/fingerprint/users"

/-- The parameters of the call in their order. -/
def pairs : Call → List (String × String)
  | .hourlyHealth modelName window =>
      [("model_name", modelName), ("start_hour", Decimal.text window.start.toInt),
        ("end_hour", Decimal.text window.stop.toInt)]
  | .publicHourly | .enabledModels | .recordFingerprint _ => []
  | .fingerprints keyword page size =>
      [("p", Decimal.text page.toInt), ("page_size", Decimal.text size.toInt),
        ("keyword", Text.trim keyword)]
  | .duplicateVisitors page size =>
      [("p", Decimal.text page.toInt), ("page_size", Decimal.text size.toInt)]
  | .usersByVisitor visitorId ip page size =>
      [("visitor_id", visitorId), ("p", Decimal.text page.toInt),
        ("page_size", Decimal.text size.toInt)] ++
        ((ip.filter (· ≠ "")).map fun ip => ("ip", ip)).toList

/-- The parameters that are numbers. -/
def numbers : Call → List (String × Int64)
  | .hourlyHealth _ window => [("start_hour", window.start), ("end_hour", window.stop)]
  | .fingerprints _ page size | .duplicateVisitors page size | .usersByVisitor _ _ page size =>
      [("p", page), ("page_size", size)]
  | _ => []

/-- Recording sends the visitor id and nothing else; the other calls send no body. -/
def Sends : Call → Option String → Prop
  | .recordFingerprint visitorId, body => ∃ text, body = some text ∧
      (Wire.decode (bytesOf text) : Except Json.Complaint RecordRequest) = .ok ⟨visitorId⟩
  | _, body => body = none

/-- The method of the call. -/
def method : Call → Method
  | .recordFingerprint _ => .post
  | _ => .get

/-! ### Questions of calls -/

theorem question_path (c : Call) : c.question.path = c.place := by
  cases c with
  | fingerprints keyword page size =>
    simp only [question, Question.fingerprints, Question.get, place, beq_iff_eq]
  | _ => rfl

theorem question_parameters (c : Call) : c.question.parameters = c.pairs := by
  cases c with
  | usersByVisitor visitorId ip page size =>
    cases ip with
    | none => rfl
    | some ip =>
      by_cases h : ip = ""
      · subst h
        rfl
      · have hgiven : (some ip).filter (· ≠ "") = some ip := by simp [Option.filter, h]
        rw [pairs, hgiven]
        simp [question, Question.usersByVisitor, Question.get, Question.pageParameters,
          Question.number, h]
  | _ => rfl

/-- A number is among the parameters, in a form in which it is read back. -/
theorem readInteger_numbers (c : Call) {name : String} {n : Int64} (h : (name, n) ∈ c.numbers) :
    ∃ value, (name, value) ∈ c.pairs ∧ Decimal.readInteger value = .ok n := by
  refine ⟨Decimal.text n.toInt, ?_, Decimal.readInteger_text n⟩
  cases c with
  | publicHourly => cases h
  | enabledModels => cases h
  | recordFingerprint visitorId => cases h
  | _ =>
    simp only [numbers, List.mem_cons, Prod.mk.injEq, List.not_mem_nil, or_false] at h
    rcases h with ⟨rfl, rfl⟩ | ⟨rfl, rfl⟩ <;> simp [pairs]

theorem question_method (c : Call) : c.question.method = c.method := by
  cases c <;> rfl

/-- A visitor id is read back from the body that it is sent in. -/
theorem decode_recordRequest (visitorId : String) :
    (Wire.decode (bytesOf (Wire.encode (⟨visitorId⟩ : RecordRequest))) :
      Except Json.Complaint RecordRequest) = .ok ⟨visitorId⟩ := by
  refine Wire.decode_encode ?_
  exact Json.record_readsBack (List.pairwise_singleton _ _)
    ⟨Json.text_readsBack _ visitorId, trivial⟩

theorem sends_question (c : Call) : c.Sends c.question.body := by
  cases c with
  | recordFingerprint visitorId => exact ⟨_, rfl, decode_recordRequest visitorId⟩
  | _ => rfl

/-- A place has no sign in it that ends a path. -/
theorem signs_notMem_place (c : Call) : '?' ∉ c.place.toList ∧ '#' ∉ c.place.toList := by
  cases c with
  | fingerprints keyword page size =>
    by_cases h : Text.trim keyword = ""
    · rw [place, if_pos h]
      decide
    · rw [place, if_neg h]
      decide
  | _ =>
    rw [place]
    decide

end Call

namespace Gateway

/-! ### Slashes at the end of an address -/

/-- The gateway, with slashes put behind its address. -/
def withSlashes (g : Gateway) (n : Nat) : Gateway :=
  { g with baseUrl := g.baseUrl ++ String.ofList (List.replicate n '/') }

theorem root_withSlashes (g : Gateway) (n : Nat) : (g.withSlashes n).root = g.root := by
  have hslashes : ∀ c ∈ List.replicate n '/', (c == '/') = true := fun c hc => by
    rw [List.eq_of_mem_replicate hc]
    rfl
  unfold root withSlashes
  simp only [String.toList_append, String.toList_ofList, List.reverse_append,
    List.reverse_replicate]
  rw [List.dropWhile_append_of_pos hslashes]

theorem request?_withSlashes {α : Type} (g : Gateway) (q : Question α) (n : Nat) :
    (g.withSlashes n).request? q = g.request? q := by
  unfold request? address?
  rw [root_withSlashes]
  rfl

/-! ### Requests -/

/-- The request is made for the call: it can be read as the call was given. -/
structure Conveys (g : Gateway) (c : Call) (request : GatewayRequest) : Prop where
  method_eq : request.method = c.method
  /-- Where the request goes follows from the gateway's address and the place of the call. -/
  target : ∃ address, Url.Address.parse (g.root ++ c.place) = .ok address ∧
    request.address.scheme = address.scheme ∧ request.address.authority = address.authority ∧
      Url.AsksFor request.address.target address.path c.pairs
  numbers : ∀ name n, (name, n) ∈ c.numbers →
    ∃ value, (name, value) ∈ Url.parameters request.address.target ∧
      Decimal.readInteger value = .ok n
  body : c.Sends request.body

/--
**What a call is given reaches the gateway as it was given.**  A call whose place can be asked is
sent once, whatever its arguments are, and what follows are redirects; the request goes to that
place, its parameters read as those of the call and no others, and slashes behind the gateway's
address do not change it.
-/
theorem received_conveys {g : Gateway} {c : Call} (hbase : '?' ∉ g.baseUrl.toList)
    (hsend : g.CanSend c.place) :
    ∃ request, g.Conveys c request ∧
      (∀ x : Exchange, x.Leads request (g.received c.question x)) ∧
      ∀ n, (g.withSlashes n).request? c.question = some request := by
  have hplace : '?' ∉ c.question.path.toList := by
    rw [c.question_path]
    exact c.signs_notMem_place.1
  obtain ⟨request, hrequest, hmethod, hbody, htargets⟩ :=
    CanSend.exists_targets hplace (by rwa [c.question_path])
  rw [c.question_path, c.question_parameters] at htargets
  obtain ⟨address, haddress, hscheme, hauthority, hasks, hplain⟩ := htargets
  rw [hplain hbase, List.nil_append] at hasks
  have hconveys : g.Conveys c request := by
    refine ⟨hmethod.trans c.question_method, ⟨address, haddress, hscheme, hauthority, hasks⟩, ?_,
      hbody ▸ c.sends_question⟩
    rw [hasks.parameters_eq]
    exact fun _ _ => c.readInteger_numbers
  exact ⟨request, hconveys, fun x => received_of_request hrequest,
    fun n => (g.request?_withSlashes c.question n).trans hrequest⟩

/-- A gateway at a path of its own. -/
def nestedGateway : Gateway := { baseUrl := "http://gateway/base//" }

/-- Nothing in a visitor id or an address is taken for a sign of the target. -/
theorem received_conveys_signs :
    '?' ∉ nestedGateway.baseUrl.toList ∧
      nestedGateway.CanSend (Call.usersByVisitor "a&b=c" (some "+%#é") (-1) 20).place ∧
      ∃ request, nestedGateway.received
          (Call.usersByVisitor "a&b=c" (some "+%#é") (-1) 20).question .broken = [request] ∧
        Url.parameters request.address.target
          = [("visitor_id", "a&b=c"), ("p", "-1"), ("page_size", "20"), ("ip", "+%#é")] := by
  have hbase : '?' ∉ nestedGateway.baseUrl.toList := by decide
  have hparse : (Url.Address.parse (nestedGateway.root ++ "/api/fingerprint/users")).toOption.isSome
      = true := by decide +kernel
  obtain ⟨address, haddress⟩ := Option.isSome_iff_exists.mp hparse
  have hsend : nestedGateway.CanSend
      (Call.usersByVisitor "a&b=c" (some "+%#é") (-1) 20).place :=
    ⟨⟨address, eq_ok_of_toOption haddress⟩, by decide⟩
  obtain ⟨request, hconveys, hleads, -⟩ := received_conveys hbase hsend
  refine ⟨hbase, hsend, request,
    (hleads .broken).eq_singleton Exchange.isDirect_broken (by decide), ?_⟩
  obtain ⟨_, -, -, -, htarget⟩ := hconveys.target
  rw [htarget.parameters_eq]
  decide +kernel

end Gateway
end HealthBoard
