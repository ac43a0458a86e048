/-
Reporting the visitor id, but not too often.

The id is collected and uploaded at most once per interval, unless somebody insists.  Two facts
are kept: when it was last uploaded, and which id was collected last.  A call that is not due
answers with the id that is kept and does nothing else.

Nothing that goes wrong after the collection makes a call fail: an upload that fails is made up
for by the next call, because the time of the last upload stays what it was, and a store that
cannot be read or written counts as one that holds nothing or keeps what it has.

A call is a function of the store and of what the world does during it, so what runs of calls do
can be said, and proved, by recursion on the list of calls.
-/
import HealthBoard.Decimal.Integer
import HealthBoard.Fingerprint.Host
import HealthBoard.Fingerprint.Store
import HealthBoard.Gateway.Fault

namespace HealthBoard.Throttle

/-- Under this key stands when the id was last uploaded, in milliseconds since the epoch. -/
def lastReportKey : String := "fp_last_report"

/-- Under this key stands the id that was collected last. -/
def visitorIdKey : String := "fp_visitor_id"

/-- One hour. -/
def defaultInterval : Int64 := 3600000

/--
Whether an upload is due.  If the time of the last one is missing, or no number, it is; else if at
least the interval has passed since.  The time passed is clamped to 64 bits.
-/
def isDue (now : Int64) (lastReport : Option String) (interval : Int64) : Bool :=
  match lastReport.bind fun s => (Decimal.readInteger (Text.trim s)).toOption with
  | some last => interval.toInt ≤ (clamp (now.toInt - last.toInt)).toInt
  | none => true

/-- The keys whose reading or writing fails. -/
structure Faults where
  reads : List String := []
  writes : List String := []

/-- What the world does during one call. -/
structure World where
  /-- The clock when the call starts. -/
  now : Int64
  /-- The clock after a successful upload. -/
  later : Int64
  collected : Except CollectionFault String
  upload : String → Except GatewayFault Unit
  faults : Faults := {}

/-- What a call does to the outside. -/
inductive Act where
  | collect
  | report (visitorId : String)
  deriving DecidableEq

/-- What comes of a call. -/
structure Outcome (σ : Type) where
  result : Except CollectionFault (Option String)
  acts : List Act
  store : σ

variable {σ : Type} [KeyValueStore σ]

/-- Reads a key; what cannot be read is not there. -/
def read (faults : Faults) (store : σ) (key : String) : Option String :=
  if faults.reads.contains key then none else KeyValueStore.get? store key

/-- Writes a key; what cannot be written stays as it is. -/
def write (faults : Faults) (store : σ) (key value : String) : σ :=
  if faults.writes.contains key then store else KeyValueStore.set store key value

/-- Collects the id, keeps it, uploads it, and keeps the time if that worked. -/
def collectAndUpload (w : World) (store : σ) : Outcome σ :=
  match w.collected with
  | .error fault => ⟨.error fault, [.collect], store⟩
  | .ok id =>
    let store := write w.faults store visitorIdKey id
    let store := match w.upload id with
      | .ok () => write w.faults store lastReportKey (Decimal.text w.later.toInt)
      | .error _ => store
    ⟨.ok (some id), [.collect, .report id], store⟩

/-- One call: `force` insists on an upload. -/
def report (interval : Int64) (force : Bool) (w : World) (store : σ) : Outcome σ :=
  if force || isDue w.now (read w.faults store lastReportKey) interval then
    collectAndUpload w store
  else ⟨.ok (read w.faults store visitorIdKey), [], store⟩

/-! ### Runs -/

/-- What is done with a throttler and its store, one thing after the other. -/
inductive Step where
  | report (force : Bool) (world : World)
  | set (key value : String) (faults : Faults)
  | get (key : String) (faults : Faults)
  | reopen

/-- What a step answers. -/
inductive Answer where
  | reported (result : Except CollectionFault (Option String))
  /-- What was read, if it could be. -/
  | value (value : Option String)
  | done
  | storeFailed

/-- What is seen of a step: its answer, what it did, and the two facts that are kept after it. -/
structure Trace where
  answer : Answer
  acts : List Act
  lastReport : Option String
  visitorId : Option String

/-- One step. -/
def step (interval : Int64) (store : σ) : Step → Answer × List Act × σ
  | .report force world =>
    let o := report interval force world store
    (.reported o.result, o.acts, o.store)
  | .set key value faults =>
    if faults.writes.contains key then (.storeFailed, [], store)
    else (.done, [], KeyValueStore.set store key value)
  | .get key faults =>
    if faults.reads.contains key then (.storeFailed, [], store)
    else (.value (KeyValueStore.get? store key), [], store)
  | .reopen => (.done, [], KeyValueStore.reopen store)

/-- What is seen of a list of steps from a store on. -/
def run (interval : Int64) : σ → List Step → List Trace
  | _, [] => []
  | store, s :: rest =>
    let (answer, acts, store) := step interval store s
    ⟨answer, acts, KeyValueStore.get? store lastReportKey,
      KeyValueStore.get? store visitorIdKey⟩ :: run interval store rest

end HealthBoard.Throttle
