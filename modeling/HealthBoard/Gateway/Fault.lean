/-
What can go wrong when the gateway is asked something.

A request can fail to get an answer at all; the answer can be a bare error status; the gateway can
say itself that it failed; or the answer can have a form that nobody expects.  Visitors of a
dashboard are told what the gateway said, if it said something, and else only that it failed.
-/
import HealthBoard.Decimal.Integer
import HealthBoard.Text.Blank

namespace HealthBoard

inductive GatewayFault where
  /-- No complete answer came. -/
  | transport
  /-- An error status without an explanation. -/
  | status (code : Nat)
  /-- The gateway reported that it failed. -/
  | backend (message : String)
  /-- The answer does not have the form it should have. -/
  | shape (detail : String)
  deriving DecidableEq

namespace GatewayFault

def kind : GatewayFault → String
  | .transport => "transport"
  | .status _ => "status"
  | .backend _ => "backend"
  | .shape _ => "shape"

def message : GatewayFault → String
  | .transport => "request failed"
  | .status code => "upstream returned HTTP " ++ Decimal.text code
  | .backend message => "upstream reported failure: " ++ message
  | .shape detail => "unexpected response structure: " ++ detail

/-- What visitors are told of a failure that has no words of its own. -/
def genericNotice : String := "request to upstream failed"

/-- What visitors are told of an answer of the wrong form. -/
def shapeNotice : String := "upstream returned an unexpected response structure"

/-- One line for the visitors of a dashboard. -/
def notice : GatewayFault → String
  | .backend message => if Text.isAllBlank message then genericNotice else message
  | .shape _ => shapeNotice
  | .transport | .status _ => genericNotice

/-- The status that any such failure is answered with. -/
def statusCode (_ : GatewayFault) : Nat := 502

end GatewayFault
end HealthBoard
