/-
Reporting this machine to the gateway.

The throttle decides whether the id is uploaded.  Here an upload becomes what it is: a question to
the gateway, asked at most once in a call.
-/
import HealthBoard.Fingerprint.Throttle
import HealthBoard.Gateway.Exchange

namespace HealthBoard

/-- To whom this machine is reported, and how often. -/
structure Reporting where
  gateway : Gateway
  interval : Int64

/-- What happens during a report: the throttle's clock at its start and after a successful upload,
what comes of looking at the machine and of the request to the gateway, and which keys of the store
cannot be read or written. -/
structure Reporting.Moment where
  now : Int64
  later : Int64
  collected : Except CollectionFault String
  exchange : Exchange
  faults : Throttle.Faults := {}

namespace Reporting

/-- What the throttle sees of the moment. -/
def world (r : Reporting) (m : Moment) : Throttle.World :=
  { now := m.now
    later := m.later
    collected := m.collected
    upload := fun id => r.gateway.ask (.recordFingerprint id) m.exchange
    faults := m.faults }

variable {σ : Type} [KeyValueStore σ]

/-- One report; `force` insists on an upload. -/
def report (r : Reporting) (force : Bool) (m : Moment) (store : σ) : Throttle.Outcome σ :=
  Throttle.report r.interval force (r.world m) store

/-- What the gateway receives of what the throttle does. -/
def received (r : Reporting) (m : Moment) (acts : List Throttle.Act) : List GatewayRequest :=
  acts.flatMap fun act =>
    match act with
    | .collect => []
    | .report id => r.gateway.received (.recordFingerprint id) m.exchange

end Reporting
end HealthBoard
