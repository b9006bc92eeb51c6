import TableTalk.Intent.Basic

/-!
# Steps of a plan

The operations on tables, each with what it needs to be carried out. Operations
have a fixed order of priority, and every step can be described in a sentence.
-/

namespace TableTalk

/-- A kind of step. -/
inductive Operation
  | select
  | filter
  | group
  | aggregate
  | window
  | statistical
  | order
  | limit
deriving DecidableEq, Repr, Inhabited

namespace Operation

/-- All operations. -/
def all : List Operation := [select, filter, group, aggregate, window, statistical, order, limit]

/-- The place of an operation in the order of execution. -/
def priority : Operation → Nat
  | select => 1
  | filter => 2
  | group => 3
  | aggregate => 4
  | window => 5
  | statistical => 6
  | order => 7
  | limit => 8

/-- The name of an operation. -/
def name : Operation → String
  | select => "select"
  | filter => "filter"
  | group => "group"
  | aggregate => "aggregate"
  | window => "window"
  | statistical => "statistical"
  | order => "order"
  | limit => "limit"

end Operation

/-- An operation with what it is applied to. -/
inductive Step
  | select (columns : List String)
  | filter (conditions : List Condition) (sentiment : Option SentimentFilter)
  | group (columns : List String) (time : Option TimeAnalysis)
  | aggregate (aggregations : List Aggregation)
  /-- The column orders rows before a figure runs over them. -/
  | window (request : WindowRequest) (orderBy : Option String) (direction : Direction)
  | statistical (slice : PercentSlice)
  | order (column : Option String) (direction : Direction)
  | limit (count : Nat)
deriving DecidableEq

namespace Step

/-- The operation of a step. -/
def operation : Step → Operation
  | select _ => .select
  | filter _ _ => .filter
  | group _ _ => .group
  | aggregate _ => .aggregate
  | window _ _ _ => .window
  | statistical _ => .statistical
  | order _ _ => .order
  | limit _ => .limit

/-- The step in a sentence. -/
def describe : Step → String
  | select columns => "Select columns: " ++ Matching.columnList columns
  | filter conditions sentiment =>
    "Filter rows where " ++
      " and ".intercalate
        (conditions.map Condition.describe ++ (sentiment.map SentimentFilter.describe).toList)
  | group columns time =>
    let period := time.map fun t => t.interval.name ++ " of " ++ t.column.getD "<date column>"
    "Group by " ++ ", ".intercalate (period.toList ++ columns)
  | aggregate aggregations =>
    "Compute " ++ ", ".intercalate (aggregations.map Aggregation.describe)
  | window request _ direction =>
    "Apply " ++ request.function.name ++ " over " ++ request.column.getD "<numeric column>" ++
      " (" ++ direction.word ++ ")"
  | statistical slice =>
    "Keep " ++ slice.side.name ++ " " ++ Decimal.tableText slice.percent ++ "% by " ++
      slice.column.getD "<numeric column>"
  | order column direction =>
    "Order by " ++ column.getD "<primary metric>" ++ " " ++ direction.word
  | limit count => "Limit to " ++ toString count ++ " row(s)"

/-- The fields of a step as members of a JSON object. -/
def members : Step → List (String × Json)
  | select columns => [("columns", .ofList .text columns)]
  | filter conditions sentiment =>
    [("conditions", .ofList Condition.toJson conditions),
      ("semantic", .ofOption SentimentFilter.toJson sentiment)]
  | group columns time =>
    [("columns", .ofList .text columns), ("time", .ofOption TimeAnalysis.toJson time)]
  | aggregate aggregations => [("aggregations", .ofList Aggregation.toJson aggregations)]
  | window request orderBy direction =>
    [("request", request.toJson), ("order_by", .ofOption .text orderBy),
      ("direction", .text direction.name)]
  | statistical slice => [("filter", slice.toJson)]
  | order column direction =>
    [("column", .ofOption .text column), ("direction", .text direction.name)]
  | limit count => [("count", .ofNat count)]

/-- The step as a JSON object that is tagged with its operation. -/
def toJson (step : Step) : Json :=
  .object (("operation", .text step.operation.name) :: step.members)

/-- Reads the fields of a step of a given operation. -/
def ofFields? (operation : Operation) (fields : Content) : Option Step :=
  match operation with
  | .select => do
    let record ← Record.read? [["columns"]] fields
    let columns ← record.required "columns" (Document.list? Document.text?)
    pure (select columns)
  | .filter => do
    let record ← Record.read? [["conditions"], ["semantic"]] fields
    let conditions ← record.required "conditions" (Document.list? Condition.read?)
    let sentiment ← record.optional "semantic" SentimentFilter.read?
    pure (filter conditions sentiment)
  | .group => do
    let record ← Record.read? [["columns"], ["time"]] fields
    let columns ← record.required "columns" (Document.list? Document.text?)
    let time ← record.optional "time" TimeAnalysis.read?
    pure (group columns time)
  | .aggregate => do
    let record ← Record.read? [["aggregations"]] fields
    let aggregations ← record.required "aggregations" (Document.list? Aggregation.read?)
    pure (aggregate aggregations)
  | .window => do
    let record ← Record.read? [["request"], ["order_by"], ["direction"]] fields
    let request ← record.required "request" WindowRequest.read?
    let orderBy ← record.optional "order_by" Document.text?
    let direction ← record.required "direction" Intent.direction?
    pure (window request orderBy direction)
  | .statistical => do
    let record ← Record.read? [["filter"]] fields
    let slice ← record.required "filter" PercentSlice.read?
    pure (statistical slice)
  | .order => do
    let record ← Record.read? [["column"], ["direction"]] fields
    let column ← record.optional "column" Document.text?
    let direction ← record.required "direction" Intent.direction?
    pure (order column direction)
  | .limit => do
    let record ← Record.read? [["count"]] fields
    let count ← record.required "count" Document.natural?
    pure (limit count)

/-- Reads a step. -/
def read? {δ : Type} [Document δ] (node : δ) : Option Step := do
  let (operation, fields) ←
    Document.tagged? "operation" (Operation.all.map fun o => (o.name, o)) node
  ofFields? operation fields

end Step

end TableTalk
