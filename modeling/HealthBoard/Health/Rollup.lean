/-
From hourly records to one line per model.

A dashboard shows, for each model, a strip of hours and the model's average over them.  Records
come in any order and may repeat an hour; the last one for a model and an hour is the one that
counts, and one that counts no slices is as good as none.  Hours without a record are filled in
with the model's average, so that a strip has no holes.

Totals are sums in 64 bits.  Models stand in the order of their successes, the most successful
first, and among equals in the order in which they were first seen.
-/
import HealthBoard.Health.Record
import HealthBoard.Health.Sum
import HealthBoard.Text.Blank
import HealthBoard.Text.Lowercase

namespace HealthBoard

/-- One hour of one model, as shown. -/
structure HourCell where
  modelName : String
  hourStart : Int64
  successSlices : Int64
  totalSlices : Int64
  successRequests : Int64
  errorRequests : Int64
  totalRequests : Int64
  successRate : Float
  /-- There was no record for the hour; the rate is the model's average. -/
  isFilled : Bool

/-- The cell of a record, with all that the record says. -/
def HourCell.real (r : HourlyRecord) : HourCell :=
  ⟨r.modelName, r.hourStart, r.successSlices, r.totalSlices, r.successRequests, r.errorRequests,
    r.totalRequests, r.successRate, false⟩

/-- The cell of an hour without a record. -/
def HourCell.filled (modelName : String) (hour : Int64) (average : Float) : HourCell :=
  ⟨modelName, hour, 0, 0, 0, 0, 0, average, true⟩

/-- One model over a list of hours. -/
structure ModelRollup where
  modelName : String
  averageRate : Float
  totalSuccess : Int64
  totalSlices : Int64
  /-- The hours in reverse order. -/
  hourly : List HourCell

namespace Rollup

/-- The names of the records, each once, in the order in which they are first seen. -/
def modelNames (records : List HourlyRecord) : List String :=
  records.foldl (fun names r =>
    if r.modelName == "" || names.contains r.modelName then names else names ++ [r.modelName]) []

/-- The record that counts for a model and an hour: the last one there is. -/
def latest? (records : List HourlyRecord) (name : String) (hour : Int64) : Option HourlyRecord :=
  records.foldl (fun found r =>
    if r.modelName == name && r.hourStart == hour then some r else found) none

/-- The record shown for a model and an hour: the one that counts, if it has slices. -/
def shown? (records : List HourlyRecord) (name : String) (hour : Int64) : Option HourlyRecord :=
  (latest? records name hour).filter HourlyRecord.hasSlices

/-- The counts of a model that are added up over the hours. -/
def counts (count : HourlyRecord → Int64) (records : List HourlyRecord) (hours : List Int64)
    (name : String) : List Int64 :=
  (hours.filterMap (shown? records name)).map count

/-- One model over the hours, with these totals. -/
def ofTotals (records : List HourlyRecord) (hours : List Int64) (name : String)
    (success slices : Int64) : ModelRollup :=
  let average := weightedRate success slices
  let cell (hour : Int64) : HourCell :=
    match shown? records name hour with
    | some r => .real r
    | none => .filled name hour average
  ⟨name, average, success, slices, hours.reverse.map cell⟩

/-- One model over the hours. -/
def ofModel (records : List HourlyRecord) (hours : List Int64) (name : String) : ModelRollup :=
  ofTotals records hours name (total (counts (·.successSlices) records hours name))
    (total (counts (·.totalSlices) records hours name))

/-- Models in the order of their successes. -/
def ranked (models : List ModelRollup) : List ModelRollup :=
  models.mergeSort fun a b => decide (b.totalSuccess.toInt ≤ a.totalSuccess.toInt)

end Rollup

/-- All models of the records over the hours. -/
def rollup (records : List HourlyRecord) (hours : List Int64) : List ModelRollup :=
  Rollup.ranked ((Rollup.modelNames records).map (Rollup.ofModel records hours))

namespace Overflow

/-- One model over the hours, unless the program stops at a sum. -/
def ofModel? (o : Overflow) (records : List HourlyRecord) (hours : List Int64) (name : String) :
    Option ModelRollup := do
  let success ← o.total? (Rollup.counts (·.successSlices) records hours name)
  let slices ← o.total? (Rollup.counts (·.totalSlices) records hours name)
  return Rollup.ofTotals records hours name success slices

/-- All models of the records over the hours, unless the program stops at a sum. -/
def rollup? (o : Overflow) (records : List HourlyRecord) (hours : List Int64) :
    Option (List ModelRollup) := do
  let models ← (Rollup.modelNames records).mapM (o.ofModel? records hours)
  return Rollup.ranked models

end Overflow

/-- Whether a list of characters occurs inside another. -/
def occursIn (part : List Char) : List Char → Bool
  | [] => part.isEmpty
  | c :: rest => part.isPrefixOf (c :: rest) || occursIn part rest

/-- Whether a keyword finds a name: by case-blind substring, and a blank keyword finds all. -/
def findsName (keyword name : String) : Bool :=
  let keyword := Text.trim keyword
  keyword == "" || occursIn (Text.lowercase keyword).toList (Text.lowercase name).toList

/-- The models that a keyword finds, in their order. -/
def filterByName (models : List ModelRollup) (keyword : String) : List ModelRollup :=
  models.filter fun m => findsName keyword m.modelName

end HealthBoard
