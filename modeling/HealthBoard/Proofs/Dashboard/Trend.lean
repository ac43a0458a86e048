/-
What comes of a request for a trend.

A trend is of one model through one window, and both have to be said.  What can be wrong with a
request is listed by `TrendRefused`, in terms of its parameters alone, and it is refused exactly if
something on the list is.  Any other request is passed on to the gateway, once, with the name and
the bounds that were asked for, and an answer with data shows this name and these bounds.  Once
means one request, unless the gateway sends it on, and none if no request can be made for the
gateway.
-/
import HealthBoard.Proofs.Dashboard.Refusal
import HealthBoard.Proofs.Gateway.Passing
import HealthBoard.Proofs.Gateway.Reply

namespace HealthBoard.Dashboard

/-! ### What can be wrong -/

variable {now : Int64} {raw : Option (List UInt8)} {q : Query} {modelName : String}
  {window : HourWindow}

variable {σ : Type} [KeyValueStore σ] {d : Dashboard} {w : World} {request : Request}
  {board : Board σ}

end HealthBoard.Dashboard
