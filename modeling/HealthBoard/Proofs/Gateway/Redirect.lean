/-
Where redirects lead.

A question is sent once, and what is received after its request follows from the redirects alone:
each request is the one before it, sent on by the next redirect.  So whatever holds of the first
request and is kept when a request is sent on holds of all of them, and a reply that does not send
on leaves it at one request.
-/
import HealthBoard.Proofs.Gateway.Exchange

namespace HealthBoard

namespace Exchange

/-- What comes of the request does not send on. -/
def IsDirect (x : Exchange) : Prop := ∀ redirect next, x ≠ .redirected redirect next

/-- The redirects in their order, also those that are too many to be followed. -/
def redirects : Exchange → List Redirect
  | .redirected redirect next => redirect :: next.redirects
  | _ => []

theorem isDirect_iff {x : Exchange} : x.IsDirect ↔ x.redirects = [] := by
  cases x with
  | redirected redirect next => simp [IsDirect, redirects]
  | _ => simp [IsDirect, redirects]

/-- The requests that arrive when a request is sent once and its redirects are followed. -/
structure Leads (x : Exchange) (request : GatewayRequest) (received : List GatewayRequest) :
    Prop where
  head : received.head? = if x = .unreachable then none else some request
  /-- Each further request is the one before, sent on by the next redirect. -/
  followed : received <+: x.redirects.scanl GatewayRequest.follow request
  length_le : received.length ≤ mostRedirects + 1
  /-- Without a redirect there are no further requests. -/
  direct : x.IsDirect → received = if x = .unreachable then [] else [request]

theorem isDirect_reply (status : Nat) (body : List UInt8) :
    (Exchange.reply status body).IsDirect := by simp [IsDirect]

theorem isDirect_broken : Exchange.broken.IsDirect := by simp [IsDirect]

variable {x : Exchange} {limit : Nat} {request : GatewayRequest}

/-- A request that reaches the gateway and is not sent on is the only one. -/
theorem Leads.eq_singleton {received : List GatewayRequest} (h : x.Leads request received)
    (hdirect : x.IsDirect) (hreaches : x ≠ .unreachable) : received = [request] :=
  (h.direct hdirect).trans (if_neg hreaches)

theorem head?_requestsWithin : (x.requestsWithin limit request).head?
    = if x = .unreachable then none else some request := by
  cases x with
  | redirected redirect next => cases limit <;> rfl
  | _ => cases limit <;> rfl

theorem requestsWithin_of_direct (h : x.IsDirect) :
    x.requestsWithin limit request = if x = .unreachable then [] else [request] := by
  cases x with
  | redirected redirect next => exact absurd rfl (h redirect next)
  | _ => cases limit <;> rfl

theorem requestsWithin_prefix (x : Exchange) (limit : Nat) (request : GatewayRequest) :
    x.requestsWithin limit request <+: x.redirects.scanl GatewayRequest.follow request := by
  induction x generalizing limit request with
  | unreachable => cases limit <;> exact List.nil_prefix
  | broken => cases limit <;> exact List.prefix_rfl
  | reply status body => cases limit <;> exact List.prefix_rfl
  | redirected redirect next ih =>
      rw [redirects, List.scanl_cons]
      cases limit with
      | zero => exact List.cons_prefix_cons.mpr ⟨rfl, List.nil_prefix⟩
      | succ limit => exact List.cons_prefix_cons.mpr ⟨rfl, ih limit (request.follow redirect)⟩

theorem length_requestsWithin_le (x : Exchange) (limit : Nat) (request : GatewayRequest) :
    (x.requestsWithin limit request).length ≤ limit + 1 := by
  induction x generalizing limit request with
  | unreachable => cases limit <;> exact Nat.zero_le _
  | broken => cases limit <;> exact Nat.le_add_left _ _
  | reply status body => cases limit <;> exact Nat.le_add_left _ _
  | redirected redirect next ih =>
      cases limit with
      | zero => exact Nat.le_refl _
      | succ limit => exact Nat.succ_le_succ (ih limit (request.follow redirect))

theorem leads_requestsWithin (x : Exchange) (request : GatewayRequest) :
    x.Leads request (x.requestsWithin mostRedirects request) :=
  ⟨head?_requestsWithin, requestsWithin_prefix x _ request, length_requestsWithin_le x _ request,
    requestsWithin_of_direct⟩

/-- What is kept when a request is sent on holds of all requests that arrive. -/
theorem forall_mem_requestsWithin {P : GatewayRequest → Prop}
    (hfollow : ∀ (r : GatewayRequest) (redirect : Redirect), P r → P (r.follow redirect))
    (x : Exchange) (limit : Nat) (request : GatewayRequest) (h : P request) :
    ∀ r ∈ x.requestsWithin limit request, P r := by
  induction x generalizing limit request with
  | unreachable => cases limit <;> exact fun _ hr => by cases hr
  | broken => cases limit <;> exact List.forall_mem_singleton.mpr h
  | reply status body => cases limit <;> exact List.forall_mem_singleton.mpr h
  | redirected redirect next ih =>
      cases limit with
      | zero => exact List.forall_mem_singleton.mpr h
      | succ limit =>
          exact List.forall_mem_cons.mpr ⟨h, ih limit _ (hfollow request redirect h)⟩

end Exchange

/-- A reply with the status 302 that sends on to another place, and the reply of that place. -/
def sentOn (body : List UInt8) : Exchange :=
  .redirected
    ⟨.found, "http".toList, some ⟨[], .name "gateway".toList, none⟩, "/elsewhere".toList, none⟩
    (.reply 200 body)

/-! ### The requests of a question -/

namespace Gateway

variable {α : Type} {g : Gateway} {q : Question α} {x : Exchange} {request : GatewayRequest}

theorem received_of_request (h : g.request? q = some request) :
    x.Leads request (g.received q x) := by
  have hreceived : g.received q x = x.requestsWithin mostRedirects request := by
    unfold received
    rw [h]
  rw [hreceived]
  exact x.leads_requestsWithin request

/-- A question that no request can be made for is not sent. -/
theorem received_of_none (h : g.request? q = none) : g.received q x = [] := by
  unfold received
  rw [h]

/-- What is received first is the request for the question. -/
theorem request?_of_head?_received (h : (g.received q x).head? = some request) :
    g.request? q = some request := by
  cases hrequest : g.request? q with
  | none =>
      rw [received_of_none hrequest] at h
      cases h
  | some first =>
      rw [(received_of_request hrequest).head] at h
      split at h
      · cases h
      · exact h

/-- There is a request for a question exactly if its place can be asked. -/
theorem canSend_iff : g.CanSend q.path ↔ (g.request? q).isSome := by
  constructor
  · intro h
    obtain ⟨request, -, hrequest, -⟩ := h.request?_eq
    rw [hrequest]
    rfl
  · intro h
    obtain ⟨request, hrequest⟩ := Option.isSome_iff_exists.mp h
    unfold request? address? at hrequest
    cases haddress : Url.Address.parse (g.root ++ q.path) with
    | error fault =>
        rw [haddress] at hrequest
        cases hrequest
    | ok address =>
        refine ⟨⟨address, haddress⟩, fun hauthorization => ?_⟩
        rw [haddress, hauthorization] at hrequest
        cases hrequest

/-- What is kept when a request is sent on holds of all that is received, if it holds of the request
for the question. -/
theorem forall_mem_received {P : GatewayRequest → Prop}
    (hfollow : ∀ (r : GatewayRequest) (redirect : Redirect), P r → P (r.follow redirect))
    (h : ∀ request, g.request? q = some request → P request) : ∀ r ∈ g.received q x, P r := by
  cases hrequest : g.request? q with
  | none =>
      rw [received_of_none hrequest]
      exact fun _ hr => by cases hr
  | some request =>
      unfold received
      rw [hrequest]
      exact x.forall_mem_requestsWithin hfollow _ request (h request hrequest)

end Gateway
end HealthBoard
