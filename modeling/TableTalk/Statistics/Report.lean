import TableTalk.Json.Document
import TableTalk.Statistics.Frequency
import TableTalk.Statistics.Summary

/-!
# Statistics as JSON

Summaries and frequency tables as documents. A figure that is missing is null; a
share that was not asked for is left out.
-/

namespace TableTalk.Statistics

/-- A figure that may be missing. -/
def figureJson : Option Float → Json :=
  Json.ofOption .float

/-- The quartiles as a JSON object. -/
def Quartiles.toJson (q : Quartiles Float) : Json :=
  .object [("q1", .float q.q1), ("q2", .float q.q2), ("q3", .float q.q3), ("iqr", .float q.iqr)]

/-- The summary as a JSON object. -/
def Summary.toJson (summary : Summary Float) : Json :=
  .object
    [("count", .ofNat summary.count), ("mean", figureJson summary.mean),
      ("median", figureJson summary.median), ("std_dev", .float summary.deviation),
      ("min", figureJson summary.least), ("max", figureJson summary.greatest),
      ("quartiles", .ofOption Quartiles.toJson summary.quartiles)]

/-- The frequency as a JSON object. -/
def Frequency.toJson (frequency : Frequency) : Json :=
  .object
    ([("value", frequency.value.toJson), ("count", .ofNat frequency.count)] ++
      (frequency.percentage.map fun share => ("percentage", Json.float share)).toList)

end TableTalk.Statistics
