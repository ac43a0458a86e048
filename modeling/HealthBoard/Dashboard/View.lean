/-
What the dashboards show.

The operators' view follows one model through a window, hour by hour.  The public overview is a
grid of all models, each with its own strip of hours.  Levels and labels are put in here, so that
whoever draws a view need not know any cut-offs.  For each view there is an empty one, which is
shown when the gateway gives nothing to show.
-/
import HealthBoard.Gateway.Page
import HealthBoard.Health.Encoding
import HealthBoard.Health.Window

namespace HealthBoard

/-- The members of a record of the wire. -/
def Wire.members {α : Type} [Wire α] (a : α) : List (String × Json) :=
  match Wire.toJson a with
  | .obj members => members
  | _ => []

/-- Hours as JSON. -/
def hoursToJson (hours : List Int64) : Json := .arr (hours.map fun h => .int h.toInt)

/-! ### One model -/

/-- A record with its level. -/
structure TrendPoint where
  record : HourlyRecord
  level : HealthLevel
  label : String

def TrendPoint.ofRecord (thresholds : ThresholdSet) (r : HourlyRecord) : TrendPoint :=
  let level := thresholds.classify r.rate
  ⟨r, level, thresholds.label level⟩

def TrendPoint.toJson (p : TrendPoint) : Json :=
  .obj (Wire.members p.record ++ [("level", .str p.level.name), ("label", .str p.label)])

/-- One model over a window. -/
structure TrendView where
  modelName : String
  startHour : Int64
  endHour : Int64
  hours : List Int64
  rows : List TrendPoint
  stats : TrendStats

namespace TrendView

def empty : TrendView := ⟨"", 0, 0, [], [], .empty⟩

/-- The view of a model's records; all records are shown, also those outside of the window. -/
def ofRecords (thresholds : ThresholdSet) (modelName : String) (window : HourWindow)
    (records : List HourlyRecord) : TrendView :=
  ⟨modelName, window.start, window.stop, window.hours,
    records.map (TrendPoint.ofRecord thresholds), .ofRecords records⟩

def toJson (v : TrendView) : Json :=
  .obj [("model_name", .str v.modelName), ("start_hour", .int v.startHour.toInt),
    ("end_hour", .int v.endHour.toInt), ("hours", hoursToJson v.hours),
    ("rows", .arr (v.rows.map TrendPoint.toJson)), ("stats", v.stats.toJson)]

end TrendView

/-! ### All models -/

/-- An hour of a model with its level. -/
structure CellView where
  cell : HourCell
  level : HealthLevel

def CellView.toJson (c : CellView) : Json :=
  .obj (c.cell.members ++ [("level", .str c.level.name)])

/-- A model with its level. -/
structure ModelCard where
  model : ModelRollup
  level : HealthLevel
  label : String
  hourly : List CellView

namespace ModelCard

def ofRollup (thresholds : ThresholdSet) (m : ModelRollup) : ModelCard :=
  let level := thresholds.classify m.averageRate
  ⟨m, level, thresholds.label level,
    m.hourly.map fun cell => ⟨cell, thresholds.classify cell.successRate⟩⟩

def toJson (c : ModelCard) : Json :=
  .obj [("model_name", .str c.model.modelName), ("avg_rate", .float c.model.averageRate),
    ("total_success", .int c.model.totalSuccess.toInt),
    ("total_slices", .int c.model.totalSlices.toInt),
    ("level", .str c.level.name), ("label", .str c.label),
    ("hourly", .arr (c.hourly.map CellView.toJson))]

end ModelCard

/-- All models over a window. -/
structure Overview where
  startHour : Int64
  endHour : Int64
  latestHour : Option Int64
  hours : List Int64
  /-- Figures over all models, whatever is searched for. -/
  stats : Summary
  models : List ModelCard

namespace Overview

def empty : Overview := ⟨0, 0, none, [], .empty, []⟩

/-- The overview of some models and their figures, with the cards of those that a keyword finds. -/
def ofModels (thresholds : ThresholdSet) (window : HourWindow) (models : List ModelRollup)
    (stats : Summary) (search : String) : Overview :=
  { startHour := window.start
    endHour := window.stop
    latestHour := window.hours.getLast?
    hours := window.hours
    stats
    models := (filterByName models search).map (ModelCard.ofRollup thresholds) }

/-- The overview of all records. -/
def ofRecords (thresholds : ThresholdSet) (window : HourWindow) (records : List HourlyRecord)
    (search : String) : Overview :=
  let models := rollup records window.hours
  ofModels thresholds window models (summarize models thresholds) search

def toJson (v : Overview) : Json :=
  .obj [("start_hour", .int v.startHour.toInt), ("end_hour", .int v.endHour.toInt),
    ("latest_hour", match v.latestHour with
      | some hour => .int hour.toInt
      | none => .null),
    ("hours", hoursToJson v.hours), ("stats", v.stats.toJson),
    ("models", .arr (v.models.map ModelCard.toJson))]

end Overview

/-- The overview of all records, unless the program stops at a sum. -/
def Overflow.overview? (o : Overflow) (thresholds : ThresholdSet) (window : HourWindow)
    (records : List HourlyRecord) (search : String) : Option Overview := do
  let models ← o.rollup? records window.hours
  let stats ← o.summarize? models thresholds
  return .ofModels thresholds window models stats search

/-! ### Listings -/

/-- A page as JSON, given how its items are shown. -/
def Page.show {α : Type} (item : α → Json) (p : Page α) : Json :=
  .obj [("page", .int p.page.toInt), ("page_size", .int p.pageSize.toInt),
    ("total", .int p.total.toInt), ("items", .arr (p.items.map item))]

/-- What a role is called. -/
def FingerprintUser.roleLabel (u : FingerprintUser) : String :=
  if u.role == 100 then "root" else if u.role == 10 then "admin" else "user"

/-- What a status is called. -/
def FingerprintUser.statusLabel (u : FingerprintUser) : String :=
  if u.status == 1 then "enabled" else "disabled"

/-- A user with the names of role and status. -/
def FingerprintUser.toRow (u : FingerprintUser) : Json :=
  .obj (Wire.members u ++
    [("role_label", .str u.roleLabel), ("status_label", .str u.statusLabel)])

end HealthBoard
