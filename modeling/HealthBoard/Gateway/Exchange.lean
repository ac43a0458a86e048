/-
Asking the gateway.

A question becomes a request, unless the gateway's address or the token cannot be put into one.
The request is sent once and whatever comes of it is the answer or the reason why there is none:
a question is never asked again.  A reply may send on to another address, though.  It is followed
there, and so is the next one, up to a number of times after which the question counts as lost.

What a reply means is decided in a fixed order.  The gateway's own word that it failed comes before
the status of the reply, and a status that tells of an error before the form of the data.
-/
import HealthBoard.Gateway.Question
import HealthBoard.Url.Address

namespace HealthBoard

/-- The gateway, and what every request to it carries. -/
structure Gateway where
  baseUrl : String
  accessToken : Option String := none
  userId : Option Int64 := none

/-- A request as the gateway receives it. -/
structure GatewayRequest where
  method : Method
  address : Url.Address
  /-- A token in the form that requests carry it. -/
  authorization : Option String
  userId : Option String
  /-- A text of JSON. -/
  body : Option String
  deriving DecidableEq

/-- How a reply can send on. -/
inductive RedirectStatus where
  | movedPermanently
  | found
  | seeOther
  | temporaryRedirect
  | permanentRedirect
  deriving DecidableEq

namespace RedirectStatus

def code : RedirectStatus → Nat
  | .movedPermanently => 301
  | .found => 302
  | .seeOther => 303
  | .temporaryRedirect => 307
  | .permanentRedirect => 308

/-- The request is sent again as it is; otherwise the other address is asked without a body. -/
def keepsRequest : RedirectStatus → Bool
  | .temporaryRedirect | .permanentRedirect => true
  | _ => false

end RedirectStatus

/-- How a reply sends on, and where to. -/
structure Redirect where
  status : RedirectStatus
  address : Url.Address
  deriving DecidableEq

/-- The request that follows a redirect.  The token is not shown to another host. -/
def GatewayRequest.follow (r : GatewayRequest) (redirect : Redirect) : GatewayRequest :=
  { method := if redirect.status.keepsRequest then r.method else .get
    address := redirect.address
    authorization := if r.address.sharesHost redirect.address then r.authorization else none
    userId := r.userId
    body := if redirect.status.keepsRequest then r.body else none }

/-- What comes of a request. -/
inductive Exchange where
  /-- The request does not reach the gateway. -/
  | unreachable
  /-- The request reaches the gateway, but no complete reply comes back. -/
  | broken
  | reply (status : Nat) (body : List UInt8)
  /-- The reply sends on, and `next` is what comes of the request that follows. -/
  | redirected (redirect : Redirect) (next : Exchange)
  deriving Inhabited, DecidableEq

/-- Whether a reply has a body; with some statuses it has none, whatever stands behind its head. -/
def carriesBody (status : Nat) : Bool := !([101, 204, 304].contains status)

/-- How many redirects are followed for a question. -/
def mostRedirects : Nat := 10

namespace Exchange

/-- The reply at the end, if there is one after no more redirects than may be followed. -/
def replyWithin? : (limit : Nat) → Exchange → Option (Nat × List UInt8)
  | _, .reply status body => some (status, if carriesBody status then body else [])
  | limit + 1, .redirected _ next => next.replyWithin? limit
  | _, _ => none

/-- The status and the body of the reply that counts. -/
def finalReply? (x : Exchange) : Option (Nat × List UInt8) := x.replyWithin? mostRedirects

/-- The requests that arrive, of which this is the first, if so many redirects may be followed. -/
def requestsWithin : (limit : Nat) → GatewayRequest → Exchange → List GatewayRequest
  | _, _, .unreachable => []
  | limit + 1, request, .redirected redirect next =>
    request :: next.requestsWithin limit (request.follow redirect)
  | _, request, _ => [request]

end Exchange

/-- A status that does not tell of an error. -/
def isSuccess (status : Nat) : Bool := 200 ≤ status && status < 300

/-- The data of the reply that counts. -/
def Exchange.data (x : Exchange) : Except GatewayFault Json :=
  match x.finalReply? with
  | none => .error .transport
  | some (status, body) =>
    match (Wire.decode body : Except Json.Complaint RawEnvelope) with
    | .error complaint =>
      if isSuccess status then .error (.shape ("invalid envelope: " ++ complaint.message body))
      else .error (.status status)
    | .ok envelope =>
      if !envelope.success then .error (.backend envelope.message)
      else if !isSuccess status then .error (.status status)
      else .ok envelope.data

/-- The answer to a question. -/
def Question.judge {α : Type} (q : Question α) (x : Exchange) : Except GatewayFault α := do
  q.read (← x.data)

namespace Gateway

/-- The address of the gateway without the slashes at its end. -/
def root (g : Gateway) : String :=
  String.ofList ((g.baseUrl.toList.reverse.dropWhile (· == '/')).reverse)

/-- A character that a header may hold. -/
def isHeaderChar (c : Char) : Bool := c == '\t' || (0x20 ≤ c.toNat && c.toNat != 0x7F)

/-- The token in the form that requests carry it, unless it cannot be a header. -/
def authorization (g : Gateway) : Option (Option String) :=
  match g.accessToken with
  | none => some none
  | some token => if token.toList.all isHeaderChar then some (some ("Bearer " ++ token)) else none

/-- The address that a question is sent to. -/
def address? {α : Type} (g : Gateway) (q : Question α) : Option Url.Address := do
  let address ← (Url.Address.parse (g.root ++ q.path)).toOption
  return if q.parameters.isEmpty then address else address.withParameters q.parameters

/-- The request for a question, if there can be one. -/
def request? {α : Type} (g : Gateway) (q : Question α) : Option GatewayRequest := do
  return { method := q.method
           address := ← g.address? q
           authorization := ← g.authorization
           userId := g.userId.map fun n => Decimal.text n.toInt
           body := q.body }

/-- The answer to a question, if `x` is what comes of its request. -/
def ask {α : Type} (g : Gateway) (q : Question α) (x : Exchange) : Except GatewayFault α :=
  match g.request? q with
  | none => .error .transport
  | some _ => q.judge x

/-- What is received while the gateway is asked a question. -/
def received {α : Type} (g : Gateway) (q : Question α) (x : Exchange) : List GatewayRequest :=
  match g.request? q with
  | none => []
  | some request => x.requestsWithin mostRedirects request

end Gateway
end HealthBoard
