/-
How good a rate is.

Five levels, ordered from critical to excellent, and a set of four cut-offs that divides the rates
among them: a rate has the highest level whose cut-off it reaches.  A rate that is no number
between zero and one counts as zero.

The operators' dashboard and the public page judge differently, so there are two built-in sets.
-/
import HealthBoard.Json.Wire

namespace HealthBoard

inductive HealthLevel where
  | critical
  | poor
  | warning
  | good
  | excellent
  deriving DecidableEq, Repr

namespace HealthLevel

/-- The place of a level in the order, critical lowest. -/
def rank : HealthLevel → Nat
  | .critical => 0
  | .poor => 1
  | .warning => 2
  | .good => 3
  | .excellent => 4

instance : Ord HealthLevel where
  compare a b := compare a.rank b.rank

/-- All levels, lowest first. -/
def all : List HealthLevel := [.critical, .poor, .warning, .good, .excellent]

def name : HealthLevel → String
  | .critical => "critical"
  | .poor => "poor"
  | .warning => "warning"
  | .good => "good"
  | .excellent => "excellent"

/-- Excellent and good both count as healthy. -/
def isHealthy : HealthLevel → Bool
  | .excellent | .good => true
  | _ => false

/-- The level of a name. -/
def ofName (name : String) : Except Json.Mismatch HealthLevel :=
  match all.find? (·.name == name) with
  | some level => .ok level
  | none => .error (.unknownVariant name (all.map HealthLevel.name))

/-- A level from JSON: its name, or an object whose one member has that name and holds nothing. -/
def ofJson : Json → Except Json.Mismatch HealthLevel
  | .str name => ofName name
  | .obj [(name, content)] => do
    let level ← ofName name
    match content with
    | .null => .ok level
    | j => .error (.wrongType (Json.found j) "unit")
  | .obj _ => .error (.wrongValue .map "map with a single key")
  | j => .error (.wrongType (Json.found j) "string or map")

end HealthLevel

/-- What each level is called on a dashboard. -/
structure LevelLabels where
  excellent : String
  good : String
  warning : String
  poor : String
  critical : String

/-- The least rate of each level above critical, and the names of the levels. -/
structure ThresholdSet where
  excellent : Float
  good : Float
  warning : Float
  poor : Float
  labels : LevelLabels

/-- Labels as a wire type: all five are required. -/
def LevelLabels.shape : Json.Shape :=
  .record "LevelLabels" <|
    .field "excellent" true .text <|
    .field "good" true .text <|
    .field "warning" true .text <|
    .field "poor" true .text <|
    .field "critical" true .text .done

instance : Wire LevelLabels where
  shape := LevelLabels.shape
  take := fun (e, g, w, p, c, ()) => ⟨e, g, w, p, c⟩
  give l := (l.excellent, l.good, l.warning, l.poor, l.critical, ())
  take_give _ := rfl

def ThresholdSet.shape : Json.Shape :=
  .record "ThresholdSet" <|
    .field "excellent" true .number <|
    .field "good" true .number <|
    .field "warning" true .number <|
    .field "poor" true .number <|
    .field "labels" true LevelLabels.shape .done

instance : Wire ThresholdSet where
  shape := ThresholdSet.shape
  take := fun (e, g, w, p, labels, ()) => ⟨e, g, w, p, Wire.take labels⟩
  give t := (t.excellent, t.good, t.warning, t.poor, Wire.give t.labels, ())
  take_give _ := rfl

namespace ThresholdSet

/-- The strict cut-offs of the operators' dashboard. -/
def forOperators : ThresholdSet :=
  ⟨0.99, 0.95, 0.80, 0.50, ⟨"Excellent", "Good", "Warning", "Poor", "Critical"⟩⟩

/-- The softer cut-offs of the public page. -/
def forPublic : ThresholdSet :=
  ⟨0.95, 0.80, 0.60, 0.20, ⟨"Excellent", "Good", "Fair", "Degraded", "Down"⟩⟩

/-- A number from zero to one. -/
def isRate (x : Float) : Bool := x.isFinite && 0 ≤ x && x ≤ 1

/-- The level of a rate. -/
def classify (t : ThresholdSet) (rate : Float) : HealthLevel :=
  let rate := if isRate rate then rate else 0
  if t.excellent ≤ rate then .excellent
  else if t.good ≤ rate then .good
  else if t.warning ≤ rate then .warning
  else if t.poor ≤ rate then .poor
  else .critical

def label (t : ThresholdSet) : HealthLevel → String
  | .excellent => t.labels.excellent
  | .good => t.labels.good
  | .warning => t.labels.warning
  | .poor => t.labels.poor
  | .critical => t.labels.critical

/-- The cut-offs, highest level first. -/
def cutOffs (t : ThresholdSet) : List Float := [t.excellent, t.good, t.warning, t.poor]

/-- Why a set of cut-offs cannot be used. -/
inductive Fault where
  | outsideUnit (cutOffs : List Float)
  | notDescending (cutOffs : List Float)

def Fault.message : Fault → String
  | .outsideUnit cs => "thresholds must lie within [0, 1], got " ++ listed cs
  | .notDescending cs =>
    "thresholds must be strictly descending (excellent > good > warning > poor), got " ++ listed cs
where
  listed (cs : List Float) : String :=
    "[" ++ ", ".intercalate (cs.map Decimal.cutOffLayout.text) ++ "]"

/-- Some cut-off is not greater than the next one. -/
def hasStep : List Float → Bool
  | a :: b :: rest => a ≤ b || hasStep (b :: rest)
  | _ => false

/-- Cut-offs have to be rates, and each less than the one before it. -/
def validate (t : ThresholdSet) : Except Fault Unit :=
  if t.cutOffs.any fun c => !isRate c then .error (.outsideUnit t.cutOffs)
  else if hasStep t.cutOffs then .error (.notDescending t.cutOffs)
  else .ok ()

end ThresholdSet
end HealthBoard
