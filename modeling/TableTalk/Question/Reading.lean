import TableTalk.Question.Patterns
import TableTalk.Question.Roles

/-!
# Reading a question

A question is scanned for slices and limits, window functions, calculations,
times, directions, columns to sort and group by, comparisons and words of
sentiment. Slices come first, so that their numbers are not limits, and a phrase
that asks for a window function is taken out before calculations are looked for.
-/

namespace TableTalk.Question

open TableTalk.Matching (hasPhrase phraseText bestMatch isStopWord)

/-- The largest number that a limit can be. -/
def maxLimit : Nat := Nat.pow 2 64 - 1

/-- The limit that digits spell, if it is in range. -/
def limit? (digits : String) : Option Nat :=
  (Decimal.readNat? digits).bind fun n => if n ≤ maxLimit then some n else none

/-- The column that a word matches best. -/
def columnOf (columns : List String) (threshold : Float) (word : String) : Option String :=
  (bestMatch word columns threshold).map Matching.ColumnMatch.column

/-- The slice that a question in lower case asks for. -/
def slice? (lowered : String) : Option PercentSlice := do
  let found ← Text.findFirst percentPattern lowered
  let (word, percent) := found.value
  let percent ← Decimal.read? percent
  let side := if ["bottom", "lowest", "lower"].contains word then .bottom else .top
  pure { percent, side }

/-- The number of rows to keep, and the direction that goes with it. -/
def limitAndOrder (scan : String) : Option Nat × Option Direction :=
  let counted : Option (Nat × Option Direction) := do
    let found ← Text.findFirst limitPattern scan
    let (word, digits) := found.value
    let count ← limit? digits
    let order :=
      if ["top", "best", "highest"].contains word then some .descending
      else if ["bottom", "worst", "lowest"].contains word then some .ascending
      else none
    pure (count, order)
  match counted with
  | some (count, order) => (some count, order)
  | none => ((Text.findFirst plainLimitPattern scan).bind fun found => limit? found.value, none)

/-- The window function that a padded text asks for, and the text without the phrase. -/
def windowAndRest (text : String) : Option WindowRequest × String :=
  match windowPhrases.find? fun entry => hasPhrase text entry.1 with
  | some (phrase, function) =>
    let rest := Text.replaceFirst (" " ++ phrase ++ " ").toList [' '] text.toList
    (some { function }, String.ofList rest)
  | none => (none, text)

/-- The column named right after a phrase: the first word after the phrase, fillers aside, if it is
a token that refers to a column. -/
def columnAfter (references : List Matching.Reference) (phrase : List String) :
    List String → Option String
  | [] => none
  | word :: words =>
    let named :=
      if phrase.isPrefixOf (word :: words) then do
        let next ← ((word :: words).drop phrase.length).find? fun w => !targetFillers.contains w
        references.find? fun r => r.term == next
      else none
    match named with
    | some r => some r.column
    | none => columnAfter references phrase words

/-- The column named right after one of some phrases. -/
def columnAfterAny (references : List Matching.Reference) (text : String)
    (phrases : List String) : Option String :=
  let words := Text.words text
  phrases.findSome? fun phrase => columnAfter references (Text.words phrase) words

/-- The calculations that a padded text asks for. Superlatives are no calculations where they
describe an order. -/
def aggregations (references : List Matching.Reference) (ranking : Bool) (text : String) :
    List Aggregation :=
  let wanted := aggregatePhrases.filter fun (function, phrases) =>
    !(ranking && (function == .max || function == .min)) && phrases.any (hasPhrase text)
  wanted.map fun (function, phrases) =>
    { function
      column := if function = .count then none else columnAfterAny references text phrases }

/-- The first column of dates, among the columns that the question refers to and then all. -/
def timeColumn? (references : List Matching.Reference) (schema : Schema) : Option String :=
  (references.map Matching.Reference.column ++ schema.columnNames).find? (looksLikeDate schema)

/-- The interval by which a padded text asks for figures. -/
def time? (references : List Matching.Reference) (schema : Schema) (text : String) :
    Option TimeAnalysis :=
  (timePhrases.find? fun entry => hasPhrase text entry.1).map fun entry =>
    { interval := entry.2, column := timeColumn? references schema }

/-- The direction that a padded text names. -/
def direction? (text : String) : Option Direction :=
  if ascendingPhrases.any (hasPhrase text) then some .ascending
  else if descendingPhrases.any (hasPhrase text) then some .descending
  else none

/-- The first name after a phrase for sorting that matches a column. -/
def sortColumn? (columns : List String) (threshold : Float) (scan : String) : Option String :=
  (Text.findAll sortPattern scan).findSome? fun found => columnOf columns threshold found.value

/-- A column after a phrase for grouping, and whether the phrase is a mere "by". -/
structure Mention where
  column : String
  isPlain : Bool

/-- The column that an occurrence of a phrase for grouping mentions. Words for time and stop words
are no columns, nor is what follows "sort by" and the like. -/
def mention? (columns : List String) (threshold : Float)
    (found : Text.Found (String × String)) : Option Mention :=
  let (keyword, word) := found.value
  let isPlain := keyword == "by"
  if timeUnits.contains word || isStopWord word then none
  else if isPlain && sortVerbs.contains (wordBefore found.before) then none
  else (columnOf columns threshold word).map fun column => { column, isPlain }

/-- The columns that phrases for grouping mention, in order. -/
def mentions (columns : List String) (threshold : Float) (scan : String) : List Mention :=
  (Text.findAll groupPattern scan).filterMap (mention? columns threshold)

/-- Takes the mentioned columns as groups. Where the question orders its answer, a mere "by" names
the column to order by, unless there is one already. -/
def withGroups (found : List Mention) (intent : Intent) : Intent :=
  let orders (m : Mention) : Bool := m.isPlain && intent.isRanking
  let groups := (found.filter fun m => !orders m).map Mention.column
  { intent with
    groupBy := groups.eraseDups
    orderColumn := intent.orderColumn <|> (found.find? orders).map Mention.column }

/-- The value that a number in a comparison stands for. -/
def literal? (text : String) : Option Value :=
  (Decimal.read? text).map fun x =>
    if Decimal.isWhole x && !text.toList.contains '.' then .integer (Decimal.toInt64 x)
    else .float x

/-- The conditions that a question states. -/
def comparisons (columns : List String) (threshold : Float) (scan : String) : List Condition :=
  (Text.findAll comparisonPattern scan).filterMap fun found => do
    let operator ← Operator.ofPhrase? found.value.phrase
    let column ← columnOf columns threshold found.value.name
    let value ← literal? found.value.number
    pure ⟨column, operator, value⟩

/-- The comparison of ratings that a word of praise or blame asks for. -/
def sentimentFilter? (columns : List String) (threshold : Float) (question : String) :
    Option SentimentFilter :=
  (Matching.sentiment? question).map fun (term, sentiment) =>
    { term, sentiment
      column := columnOf columns threshold term
      operator := sentiment.operator
      threshold := sentiment.threshold }

/-- Groups a ranked aggregate by the columns that the question names outright, unless they are
numeric, dates or have another role. -/
def groupRankedAggregates (schema : Schema) (intent : Intent) : Intent :=
  let targets := intent.aggregations.flatMap fun a => a.column.toList ++ a.pairedWith.toList
  if !intent.isRanking || !intent.groupBy.isEmpty || targets.isEmpty then intent
  else
    let isSubject (column : String) : Bool :=
      !targets.contains column && intent.orderColumn != some column &&
        intent.timeColumn != some column &&
        !(intent.filters.any fun c => c.column == column) &&
        !looksLikeDate schema column && !(schema.kind? column).any ColumnKind.isNumeric
    let exact := intent.references.filter fun r => r.kind == .exact
    { intent with groupBy := (exact.map Matching.Reference.column).filter isSubject }

/-- Reads a question about the columns of a schema. -/
def read (question : String) (schema : Schema) (threshold : Float) : Intent :=
  let columns := schema.columnNames
  let lowered := Text.lower question
  let references := Matching.references question columns threshold
  let slice := slice? lowered
  let scan := if slice.isSome then Text.substitute percentPattern " " lowered else lowered
  let (limit, limitOrder) := limitAndOrder scan
  let (window, text) := windowAndRest (phraseText scan)
  let ranking := limit.isSome || window.any fun w => w.function.ranksValues
  let sortColumn := sortColumn? columns threshold scan
  let order := direction? text <|> limitOrder
  let intent : Intent :=
    { question, references, slice, limit, window
      aggregations := aggregations references ranking text
      time := time? references schema text
      order := if sortColumn.isSome then order <|> some .ascending else order
      orderColumn := sortColumn }
  let grouped := withGroups (mentions columns threshold scan) intent
  let filtered : Intent :=
    { grouped with
      filters := comparisons columns threshold scan
      sentiment := sentimentFilter? columns threshold question }
  refreshClarification (assignRoles (groupRankedAggregates schema filtered))

/-- Takes over from the turn before the columns if this turn refers to none, and on its own the
groups if this turn has none. Nothing else is taken over. -/
def merge (current : Intent) (previous : Option Intent) : Intent :=
  match previous with
  | none => current
  | some previous =>
    let takesColumns := current.references.isEmpty && !previous.references.isEmpty
    let takesGroups := current.groupBy.isEmpty && !previous.groupBy.isEmpty
    let merged : Intent :=
      { current with
        references := if takesColumns then previous.references else current.references
        groupBy := if takesGroups then previous.groupBy else current.groupBy
        inheritedContext := current.inheritedContext || takesColumns || takesGroups }
    if merged.inheritedContext then refreshClarification (assignRoles merged) else merged

end TableTalk.Question
