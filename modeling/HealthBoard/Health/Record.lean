/-
What is known about one model in one hour.

The gateway counts in slices: an hour is cut into short ones, and a slice is a success if the
model answered in it.  A record carries these counts, the counts of the requests themselves, and a
rate that the gateway worked out.
-/
import HealthBoard.Json.Wire

namespace HealthBoard

/-- One model's counters for one hour. -/
structure HourlyRecord where
  modelName : String
  /-- Start of the hour, in seconds since the epoch. -/
  hourStart : Int64
  successSlices : Int64
  totalSlices : Int64
  successRequests : Int64
  errorRequests : Int64
  totalRequests : Int64
  /-- The rate as it was reported; it need not agree with the slices. -/
  successRate : Float

namespace HourlyRecord

/-- The name and the hour are required, and all else counts as zero. -/
def shape : Json.Shape :=
  .record "HourlyRecord" <|
    .field "model_name" true .text <|
    .field "hour_start_ts" true .integer <|
    .field "success_slices" false .integer <|
    .field "total_slices" false .integer <|
    .field "success_requests" false .integer <|
    .field "error_requests" false .integer <|
    .field "total_requests" false .integer <|
    .field "success_rate" false .number .done

instance : Wire HourlyRecord where
  shape := shape
  take := fun (name, hour, ss, ts, sr, er, tr, rate, ()) => ⟨name, hour, ss, ts, sr, er, tr, rate⟩
  give r := (r.modelName, r.hourStart, r.successSlices, r.totalSlices, r.successRequests,
    r.errorRequests, r.totalRequests, r.successRate, ())
  take_give _ := rfl

/-- The record counts at least one slice. -/
def hasSlices (r : HourlyRecord) : Bool := 0 < r.totalSlices.toInt

end HourlyRecord

/-- Successes per slice, all slices weighing the same; without slices, zero. -/
def weightedRate (success slices : Int64) : Float :=
  if 0 < slices.toInt then Float.ofInt success.toInt / Float.ofInt slices.toInt else 0

/-- The rate by slices where there are any, and else the reported one. -/
def HourlyRecord.rate (r : HourlyRecord) : Float :=
  if r.hasSlices then weightedRate r.successSlices r.totalSlices else r.successRate

end HealthBoard
