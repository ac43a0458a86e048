/-
Where a question goes.

A question has a place at the gateway and parameters, and its request can be read for both: the path
is the one that the gateway's address and the place make together, and the parameters stand behind
any that the gateway's address has itself.  A question that is passed on is sent in one such
request, and all that is received besides was sent on by a reply.
-/
import HealthBoard.Proofs.Gateway.Redirect
import HealthBoard.Proofs.Url.Target

namespace HealthBoard.Gateway

/-- The request goes to a place at the gateway with these parameters. -/
def Targets (g : Gateway) (place : String) (pairs : List (String × String))
    (request : GatewayRequest) : Prop :=
  ∃ address, Url.Address.parse (g.root ++ place) = .ok address ∧
    request.address.scheme = address.scheme ∧ request.address.authority = address.authority ∧
    Url.AsksFor request.address.target address.path (Url.parameters address.target ++ pairs) ∧
    ('?' ∉ g.baseUrl.toList → Url.parameters address.target = [])

/-- A place at the gateway is asked for these parameters, and nothing else is. -/
structure PassesOn (g : Gateway) (place : String) (pairs : List (String × String)) (x : Exchange)
    (received : List GatewayRequest) : Prop where
  /-- A place that can be asked is asked once, and the request is followed where replies send it. -/
  sent : g.CanSend place → ∃ request, request.method = .get ∧ request.body = none ∧
    g.Targets place pairs request ∧ x.Leads request received
  unsent : ¬ g.CanSend place → received = []

theorem root_subset (g : Gateway) : g.root.toList ⊆ g.baseUrl.toList := by
  intro c hc
  rw [root, String.toList_ofList, List.mem_reverse] at hc
  exact List.mem_reverse.mp ((List.dropWhile_suffix _).subset hc)

variable {α : Type} {g : Gateway} {q : Question α} {x : Exchange}

/-- If nothing follows the path in the gateway's address and no reply sends on, one request is
received, and it has these parameters and no others. -/
theorem PassesOn.one {place : String} {pairs : List (String × String)}
    {received : List GatewayRequest} (h : g.PassesOn place pairs x received)
    (hsend : g.CanSend place) (hplain : '?' ∉ g.baseUrl.toList) (hdirect : x.IsDirect)
    (hreaches : x ≠ .unreachable) :
    ∃ request address, received = [request] ∧
      Url.Address.parse (g.root ++ place) = .ok address ∧
      Url.AsksFor request.address.target address.path pairs := by
  obtain ⟨request, -, -, ⟨address, haddress, -, -, hasks, hnone⟩, hleads⟩ := h.sent hsend
  rw [hnone hplain, List.nil_append] at hasks
  exact ⟨request, address, hleads.eq_singleton hdirect hreaches, haddress, hasks⟩

/-- A place that can be asked is asked for what the question says. -/
theorem CanSend.exists_targets (hplace : '?' ∉ q.path.toList) (h : g.CanSend q.path) :
    ∃ request, g.request? q = some request ∧ request.method = q.method ∧
      request.body = q.body ∧ g.Targets q.path q.parameters request := by
  obtain ⟨request, address, hrequest, haddress, hmethod, hbody, htarget⟩ := h.request?_eq
  have hdivided := Url.Address.parse_divided haddress
  have hplain : '?' ∉ g.baseUrl.toList → Url.parameters address.target = [] := by
    intro hbase
    refine Url.parameters_target_of_none hdivided.path (hdivided.query ?_)
    rw [String.toList_append, List.mem_append]
    rintro (h | h)
    · exact hbase (g.root_subset h)
    · exact hplace h
  refine ⟨request, hrequest, hmethod, hbody, address, haddress, ?_⟩
  by_cases hempty : q.parameters = []
  · rw [htarget, hempty, List.isEmpty_nil, if_pos rfl, List.append_nil]
    exact ⟨rfl, rfl, Url.asksFor_target hdivided.path, hplain⟩
  · rw [htarget, if_neg (by simpa using hempty)]
    exact ⟨rfl, rfl, Url.asksFor_withParameters hdivided.path q.parameters, hplain⟩

theorem passesOn_received (hplace : '?' ∉ q.path.toList) (hmethod : q.method = .get)
    (hbody : q.body = none) : g.PassesOn q.path q.parameters x (g.received q x) where
  sent h := by
    obtain ⟨request, hrequest, hmethod', hbody', htargets⟩ := h.exists_targets hplace
    exact ⟨request, hmethod'.trans hmethod, hbody'.trans hbody, htargets,
      received_of_request hrequest⟩
  unsent h := by
    refine received_of_none ?_
    rw [canSend_iff, Option.not_isSome_iff_eq_none] at h
    exact h

end HealthBoard.Gateway
