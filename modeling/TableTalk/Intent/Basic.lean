import TableTalk.Intent.Calculation
import TableTalk.Intent.Selection
import TableTalk.Matching.Reference
import TableTalk.Series.Order

/-!
# Intents

What a question asks for, as far as it has been understood: the columns it
refers to, the calculations, filters and groups it names, and how the answer is
ordered and cut. An intent that refers to no column and asks for no calculation
has to be clarified.
-/

namespace TableTalk

/-- The reading of one question. -/
structure Intent where
  question : String := ""
  references : List Matching.Reference := []
  aggregations : List Aggregation := []
  filters : List Condition := []
  groupBy : List String := []
  window : Option WindowRequest := none
  time : Option TimeAnalysis := none
  order : Option Direction := none
  /-- The column by which the question asks to sort. -/
  orderColumn : Option String := none
  limit : Option Nat := none
  slice : Option PercentSlice := none
  sentiment : Option SentimentFilter := none
  clarificationNeeded : Bool := false
  clarificationQuestion : Option String := none
  /-- Whether columns or groups have been taken over from the turn before. -/
  inheritedContext : Bool := false
deriving DecidableEq, Inhabited

namespace Intent

/-- The columns that the question refers to. -/
def columnNames (intent : Intent) : List String :=
  intent.references.map Matching.Reference.column

/-- The column of dates by which rows are grouped. -/
def timeColumn (intent : Intent) : Option String :=
  intent.time.bind TimeAnalysis.column

/-- Whether rows are grouped. -/
def hasGrouping (intent : Intent) : Bool :=
  !intent.groupBy.isEmpty || intent.time.isSome

/-- Whether the question asks for a window function that ranks values. -/
def ranksWindow (intent : Intent) : Bool :=
  intent.window.any fun window => window.function.ranksValues

/-- Whether the question orders its answer: by a limit, a slice or a rank. -/
def isRanking (intent : Intent) : Bool :=
  intent.limit.isSome || intent.slice.isSome || intent.ranksWindow

/-- The names of the fields. -/
def fieldNames : List FieldNames :=
  [["question"], ["columns"], ["aggregations"], ["filters"], ["group_by"], ["window_function"],
    ["time_analysis"], ["order"], ["order_column"], ["limit"], ["percentile_filter"],
    ["semantic_filter"], ["clarification_needed"], ["clarification_question"],
    ["inherited_context"]]

/-- The intent as a JSON object. -/
def toJson (intent : Intent) : Json :=
  .object
    [("question", .text intent.question),
      ("columns", .ofList Matching.Reference.toJson intent.references),
      ("aggregations", .ofList Aggregation.toJson intent.aggregations),
      ("filters", .ofList Condition.toJson intent.filters),
      ("group_by", .ofList .text intent.groupBy),
      ("window_function", .ofOption WindowRequest.toJson intent.window),
      ("time_analysis", .ofOption TimeAnalysis.toJson intent.time),
      ("order", .ofOption (fun d => .text d.name) intent.order),
      ("order_column", .ofOption .text intent.orderColumn),
      ("limit", .ofOption .ofNat intent.limit),
      ("percentile_filter", .ofOption PercentSlice.toJson intent.slice),
      ("semantic_filter", .ofOption SentimentFilter.toJson intent.sentiment),
      ("clarification_needed", .bool intent.clarificationNeeded),
      ("clarification_question", .ofOption .text intent.clarificationQuestion),
      ("inherited_context", .bool intent.inheritedContext)]

/-- Reads a direction. -/
def direction? {δ : Type} [Document δ] : δ → Option Direction :=
  Document.named? [(Direction.ascending.name, .ascending), (Direction.descending.name, .descending)]

/-- Reads an intent. -/
def read? {δ : Type} [Document δ] (node : δ) : Option Intent := do
  let record ← Record.read? fieldNames node
  let question ← record.required "question" Document.text?
  let references ← record.required "columns" (Document.list? Matching.Reference.read?)
  let aggregations ← record.required "aggregations" (Document.list? Aggregation.read?)
  let filters ← record.required "filters" (Document.list? Condition.read?)
  let groupBy ← record.required "group_by" (Document.list? Document.text?)
  let window ← record.optional "window_function" WindowRequest.read?
  let time ← record.optional "time_analysis" TimeAnalysis.read?
  let order ← record.optional "order" direction?
  let orderColumn ← record.optional "order_column" Document.text?
  let limit ← record.optional "limit" Document.natural?
  let slice ← record.optional "percentile_filter" PercentSlice.read?
  let sentiment ← record.optional "semantic_filter" SentimentFilter.read?
  let clarificationNeeded ← record.required "clarification_needed" Document.bool?
  let clarificationQuestion ← record.optional "clarification_question" Document.text?
  let inheritedContext ← record.required "inherited_context" Document.bool?
  pure
    { question, references, aggregations, filters, groupBy, window, time, order, orderColumn, limit,
      slice, sentiment, clarificationNeeded, clarificationQuestion, inheritedContext }

end Intent

end TableTalk
