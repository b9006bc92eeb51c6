import TableTalk.Intent.Basic
import TableTalk.Question.Keywords
import TableTalk.Schema

/-!
# Roles of columns

The columns that a question refers to without saying what for are given to the
calculations that lack one. Columns of groups and dates are not given away, and
columns of filters only if there are no others.
-/

namespace TableTalk.Question

/-- Whether a column holds dates, by its declared type or by its name. -/
def looksLikeDate (schema : Schema) (column : String) : Bool :=
  schema.kind? column == some .date ||
    (let lowered := Text.lower column
     dateHints.any (Text.contains lowered) || Text.endsWith lowered "_at" ||
      Text.endsWith lowered "_on")

/-- The columns that calculations without a column may take, in order. -/
def candidates (intent : Intent) : List String :=
  let reserved := intent.groupBy ++ intent.timeColumn.toList
  let free := intent.columnNames.filter fun column => !reserved.contains column
  let filtered :=
    intent.filters.map Condition.column ++ (intent.sentiment.bind (·.column)).toList
  let preferred := free.filter fun column => !filtered.contains column
  if preferred.isEmpty then free else preferred

/-- Gives an aggregation the columns that it lacks; counting needs none. -/
def fillAggregation (candidates : List String) (a : Aggregation) : Aggregation :=
  if a.function = .count then a
  else
    let column := a.column <|> candidates.head?
    let pairedWith :=
      if a.function.isPairwise then
        a.pairedWith <|> candidates.find? fun candidate => column != some candidate
      else a.pairedWith
    { a with column, pairedWith }

/-- The first column that is aggregated. -/
def metric? (aggregations : List Aggregation) : Option String :=
  aggregations.findSome? Aggregation.column

/-- Gives every role that lacks a column one of the columns that the question refers to. Windows
and slices work on an aggregated figure if there is one; ranks, and slices in any case, prefer the
column to order by. -/
def assignRoles (intent : Intent) : Intent :=
  let free := candidates intent
  let aggregations := intent.aggregations.map (fillAggregation free)
  let metric := metric? aggregations
  let window := intent.window.map fun w =>
    let ordered := if w.function.ranksValues then intent.orderColumn else none
    { w with column := w.column <|> ordered <|> metric <|> free.head? }
  let slice := intent.slice.map fun s =>
    { s with column := s.column <|> intent.orderColumn <|> metric <|> free.head? }
  { intent with aggregations, window, slice }

/-- Notes whether the intent has to be clarified. -/
def refreshClarification (intent : Intent) : Intent :=
  let needed := intent.references.isEmpty && intent.aggregations.isEmpty
  { intent with
    clarificationNeeded := needed
    clarificationQuestion := if needed then some clarification else none }

end TableTalk.Question
