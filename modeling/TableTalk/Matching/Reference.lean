import TableTalk.Decimal.Notation
import TableTalk.Json.Document
import TableTalk.Listing
import TableTalk.Matching.Column

/-!
# Columns that a question refers to

Every token of at least two characters that is no stop word is matched against
the columns; words of analysis count only as exact matches. A column is referred
to once, by the first token that finds it. The module also reads off the topics
and the sentiment of a question.
-/

namespace TableTalk.Matching

/-- A column and the token that refers to it. -/
structure Reference where
  column : String
  term : String
  score : Float
  kind : MatchKind
deriving DecidableEq

/-- The column that a token refers to, if it may refer to one. -/
def reference? (columns : List String) (threshold : Float) (token : String) : Option Reference := do
  if Text.charCount token < 2 || isStopWord token then none
  let found ← bestMatch token columns threshold
  if found.kind != .exact && queryVocabulary.contains token then none
  if Decimal.isLess found.score threshold then none
  pure ⟨found.column, token, found.score, found.kind⟩

/-- The columns that a question refers to, in the order of its tokens. -/
def references (question : String) (columns : List String) (threshold : Float) :
    List Reference :=
  Listing.distinctBy Reference.column
    ((tokens question).filterMap (reference? columns threshold))

/-- A reference spelled out for a reader. -/
structure Hint where
  reference : Reference
  note : String

/-- The hint of a reference. -/
def Hint.ofReference (r : Reference) : Hint :=
  ⟨r, "'" ++ r.term ++ "' refers to column '" ++ r.column ++ "' (" ++ r.kind.name ++
    " match, score " ++ Decimal.fixedText 2 r.score ++ ")"⟩

/-- Hints on the columns of a question, at the default threshold. -/
def hints (question : String) (columns : List String) : List Hint :=
  (references question columns defaultThreshold).map Hint.ofReference

/-- Columns separated by commas. -/
def columnList (columns : List String) : String :=
  ", ".intercalate columns

/-- The topics of a question, in their fixed order. -/
def topics (question : String) : List Topic :=
  let text := phraseText question
  (topicPhrases.filter fun entry => entry.2.any (hasPhrase text)).map Prod.fst

/-- The word of praise or blame that a question contains. -/
def sentiment? (question : String) : Option (String × Sentiment) :=
  let text := phraseText question
  sentimentTerms.find? fun entry => hasPhrase text entry.1

namespace Reference

/-- The reference as a JSON object. -/
def toJson (r : Reference) : Json :=
  .object
    [("column", .text r.column), ("term", .text r.term), ("score", .float r.score),
      ("kind", .text r.kind.name)]

/-- Reads a kind of match. -/
def kind? {δ : Type} [Document δ] : δ → Option MatchKind :=
  Document.named? (MatchKind.all.map fun kind => (kind.name, kind))

/-- Reads a reference. -/
def read? {δ : Type} [Document δ] (node : δ) : Option Reference := do
  let record ← Record.read? [["column"], ["term"], ["score"], ["kind"]] node
  let column ← record.required "column" Document.text?
  let term ← record.required "term" Document.text?
  let score ← record.required "score" Document.float?
  let kind ← record.required "kind" kind?
  pure ⟨column, term, score, kind⟩

end Reference

/-- A match as a JSON object; a term that matches no column has the score zero. -/
def matchJson (found : Option (ColumnMatch Float)) : Json :=
  .object
    [("column", .ofOption (fun m => .text m.column) found),
      ("score", .float ((found.map ColumnMatch.score).getD 0.0)),
      ("kind", .text ((found.map ColumnMatch.kind).getD .none).name)]

/-- The hint as a JSON object. -/
def Hint.toJson (hint : Hint) : Json :=
  .object
    [("term", .text hint.reference.term), ("column", .text hint.reference.column),
      ("score", .float hint.reference.score), ("kind", .text hint.reference.kind.name),
      ("note", .text hint.note)]

end TableTalk.Matching
