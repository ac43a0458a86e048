/-
Figures over many models, and over many hours of one.

Both weigh by slices: the overall rate is all successes over all slices, and not a mean of rates.
-/
import HealthBoard.Health.Level
import HealthBoard.Health.Rollup

namespace HealthBoard

/-- Counts over all models. -/
structure Summary where
  totalModels : Nat
  healthyModels : Nat
  warningModels : Nat
  criticalModels : Nat
  overallRate : Float
  totalSuccessSlices : Int64
  totalSlices : Int64

/-- No models at all. -/
def Summary.empty : Summary := ⟨0, 0, 0, 0, 0, 0, 0⟩

/-- The models counted by the level of their average, with these sums of their slices. -/
def Summary.ofTotals (models : List ModelRollup) (thresholds : ThresholdSet)
    (success slices : Int64) : Summary :=
  let levels := models.map fun m => thresholds.classify m.averageRate
  { totalModels := models.length
    healthyModels := levels.countP HealthLevel.isHealthy
    warningModels := levels.countP (· == .warning)
    criticalModels := levels.countP fun l => !l.isHealthy && l != .warning
    overallRate := weightedRate success slices
    totalSuccessSlices := success
    totalSlices := slices }

/-- Counts the models by the level of their average, and sums up their slices. -/
def summarize (models : List ModelRollup) (thresholds : ThresholdSet) : Summary :=
  .ofTotals models thresholds (total (models.map (·.totalSuccess)))
    (total (models.map (·.totalSlices)))

/-- The same, unless the program stops at a sum. -/
def Overflow.summarize? (o : Overflow) (models : List ModelRollup) (thresholds : ThresholdSet) :
    Option Summary := do
  let success ← o.total? (models.map (·.totalSuccess))
  let slices ← o.total? (models.map (·.totalSlices))
  return .ofTotals models thresholds success slices

/-- Figures of one model over its records. -/
structure TrendStats where
  averageRate : Float
  leastRate : Float
  greatestRate : Float
  totalSuccess : Int64
  totalSlices : Int64
  totalRequests : Int64
  errorRequests : Int64
  successRequests : Int64

/-- No records at all. -/
def TrendStats.empty : TrendStats := ⟨0, 0, 0, 0, 0, 0, 0, 0⟩

/-- The first of two numbers unless the second is less. -/
def lesser (x y : Float) : Float := if y < x then y else x

/-- The first of two numbers unless the second is greater. -/
def greater (x y : Float) : Float := if x < y then y else x

/-- The rates of some records, with these sums of their counts. -/
def TrendStats.ofTotals (records : List HourlyRecord)
    (success slices requests errors successes : Int64) : TrendStats :=
  { averageRate := weightedRate success slices
    leastRate := (records.map (·.successRate)).foldl lesser 1
    greatestRate := (records.map (·.successRate)).foldl greater 0
    totalSuccess := success
    totalSlices := slices
    totalRequests := requests
    errorRequests := errors
    successRequests := successes }

/-- The least rate is looked for below one, the greatest above zero. -/
def TrendStats.ofRecords (records : List HourlyRecord) : TrendStats :=
  if records.isEmpty then .empty
  else
    let sum (count : HourlyRecord → Int64) : Int64 := total (records.map count)
    .ofTotals records (sum (·.successSlices)) (sum (·.totalSlices)) (sum (·.totalRequests))
      (sum (·.errorRequests)) (sum (·.successRequests))

/-- The same, unless the program stops at a sum. -/
def Overflow.trend? (o : Overflow) (records : List HourlyRecord) : Option TrendStats :=
  if records.isEmpty then some .empty
  else do
    let sum (count : HourlyRecord → Int64) : Option Int64 := o.total? (records.map count)
    return .ofTotals records (← sum (·.successSlices)) (← sum (·.totalSlices))
      (← sum (·.totalRequests)) (← sum (·.errorRequests)) (← sum (·.successRequests))

end HealthBoard
