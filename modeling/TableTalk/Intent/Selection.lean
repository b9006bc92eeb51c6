import TableTalk.Filter
import TableTalk.Grouping.Interval
import TableTalk.Matching.Sentiment
import TableTalk.Statistics.Slice

/-!
# Time, slices and sentiment

The parts of a question that split rows by time, keep the top or bottom percent
of them, or keep the rows of good or bad ratings.
-/

namespace TableTalk

/-- An interval of time and the column of dates. -/
structure TimeAnalysis where
  interval : Interval
  column : Option String := none
deriving DecidableEq, Inhabited

namespace TimeAnalysis

/-- Reads an interval. -/
def interval? {δ : Type} [Document δ] : δ → Option Interval :=
  Document.named? (Interval.all.map fun i => (i.name, i))

/-- The analysis as a JSON object. -/
def toJson (time : TimeAnalysis) : Json :=
  .object [("interval", .text time.interval.name), ("column", .ofOption .text time.column)]

/-- Reads an analysis. -/
def read? {δ : Type} [Document δ] (node : δ) : Option TimeAnalysis := do
  let record ← Record.read? [["interval"], ["column"]] node
  let interval ← record.required "interval" interval?
  let column ← record.optional "column" Document.text?
  pure { interval, column }

end TimeAnalysis

/-- A percent slice and the column that is sliced. -/
structure PercentSlice where
  percent : Float
  side : Side
  column : Option String := none
deriving DecidableEq

namespace PercentSlice

/-- Reads a side. -/
def side? {δ : Type} [Document δ] : δ → Option Side :=
  Document.named? [(Side.top.name, .top), (Side.bottom.name, .bottom)]

/-- The slice as a JSON object. -/
def toJson (slice : PercentSlice) : Json :=
  .object
    [("percent", .float slice.percent), ("side", .text slice.side.name),
      ("column", .ofOption .text slice.column)]

/-- Reads a slice. -/
def read? {δ : Type} [Document δ] (node : δ) : Option PercentSlice := do
  let record ← Record.read? [["percent"], ["side"], ["column"]] node
  let percent ← record.required "percent" Document.float?
  let side ← record.required "side" side?
  let column ← record.optional "column" Document.text?
  pure { percent, side, column }

end PercentSlice

/-- A comparison of ratings that a word of praise or blame stands for. -/
structure SentimentFilter where
  term : String
  sentiment : Matching.Sentiment
  /-- The column that the word refers to, if any. -/
  column : Option String
  operator : Operator
  threshold : Float
deriving DecidableEq

namespace SentimentFilter

/-- The comparison in words. -/
def describe (filter : SentimentFilter) : String :=
  filter.column.getD "rating" ++ " " ++ filter.operator.symbol ++ " " ++
    Decimal.tableText filter.threshold ++ " ('" ++ filter.term ++ "')"

/-- Reads a sentiment. -/
def sentiment? {δ : Type} [Document δ] : δ → Option Matching.Sentiment :=
  Document.named?
    [(Matching.Sentiment.negative.name, .negative), (Matching.Sentiment.positive.name, .positive)]

/-- The filter as a JSON object. -/
def toJson (filter : SentimentFilter) : Json :=
  .object
    [("term", .text filter.term), ("sentiment", .text filter.sentiment.name),
      ("column", .ofOption .text filter.column), ("operator", .text filter.operator.name),
      ("threshold", .float filter.threshold)]

/-- Reads a filter. -/
def read? {δ : Type} [Document δ] (node : δ) : Option SentimentFilter := do
  let record ←
    Record.read? [["term"], ["sentiment"], ["column"], ["operator"], ["threshold"]] node
  let term ← record.required "term" Document.text?
  let sentiment ← record.required "sentiment" sentiment?
  let column ← record.optional "column" Document.text?
  let operator ← record.required "operator" Condition.operator?
  let threshold ← record.required "threshold" Document.float?
  pure { term, sentiment, column, operator, threshold }

end SentimentFilter

end TableTalk
