/-
How cells, rollups and figures are sent.
-/
import HealthBoard.Health.Summary

namespace HealthBoard

/-- A cell as the members of an object. -/
def HourCell.members (c : HourCell) : List (String × Json) :=
  [("model_name", .str c.modelName), ("hour_start_ts", .int c.hourStart.toInt),
    ("success_slices", .int c.successSlices.toInt), ("total_slices", .int c.totalSlices.toInt),
    ("success_requests", .int c.successRequests.toInt),
    ("error_requests", .int c.errorRequests.toInt),
    ("total_requests", .int c.totalRequests.toInt), ("success_rate", .float c.successRate),
    ("is_filled", .bool c.isFilled)]

def ModelRollup.toJson (m : ModelRollup) : Json :=
  .obj [("model_name", .str m.modelName), ("avg_rate", .float m.averageRate),
    ("total_success", .int m.totalSuccess.toInt), ("total_slices", .int m.totalSlices.toInt),
    ("hourly", .arr (m.hourly.map fun c => .obj c.members))]

def Summary.toJson (s : Summary) : Json :=
  .obj [("total_models", .int s.totalModels), ("healthy_models", .int s.healthyModels),
    ("warning_models", .int s.warningModels), ("critical_models", .int s.criticalModels),
    ("overall_rate", .float s.overallRate),
    ("total_success_slices", .int s.totalSuccessSlices.toInt),
    ("total_slices", .int s.totalSlices.toInt)]

def TrendStats.toJson (t : TrendStats) : Json :=
  .obj [("avg_rate", .float t.averageRate), ("min_rate", .float t.leastRate),
    ("max_rate", .float t.greatestRate), ("total_success", .int t.totalSuccess.toInt),
    ("total_slices", .int t.totalSlices.toInt), ("total_requests", .int t.totalRequests.toInt),
    ("error_requests", .int t.errorRequests.toInt),
    ("success_requests", .int t.successRequests.toInt)]

end HealthBoard
