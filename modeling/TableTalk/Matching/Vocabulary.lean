/-!
# Vocabulary of questions

The fixed word lists of matching: synonyms of column names, words that never
name a column, words of analysis that name a column only if they are its name,
words that show what kind of answer is wanted, and words of praise and blame.
-/

namespace TableTalk.Matching

/-- Words and the parts of column names that they may stand for. -/
def synonyms : List (String × List String) :=
  [("rating", ["score", "stars", "star", "rate", "grade"]),
    ("score", ["rating", "points", "grade", "stars"]),
    ("star", ["rating", "score"]),
    ("user", ["reviewer", "customer", "author", "username", "client"]),
    ("reviewer", ["user", "author", "customer"]),
    ("customer", ["client", "buyer", "user", "account"]),
    ("author", ["user", "reviewer", "writer"]),
    ("review", ["comment", "feedback", "text", "body", "content"]),
    ("comment", ["review", "feedback", "text", "body"]),
    ("feedback", ["review", "comment", "text"]),
    ("date", ["created", "timestamp", "time", "day"]),
    ("time", ["timestamp", "date", "created"]),
    ("when", ["date", "created", "timestamp"]),
    ("price", ["cost", "amount", "value"]),
    ("cost", ["price", "amount", "expense"]),
    ("revenue", ["sales", "income", "amount", "total"]),
    ("sale", ["revenue", "amount", "order"]),
    ("product", ["item", "sku", "article"]),
    ("item", ["product", "sku"]),
    ("category", ["type", "group", "segment", "genre"]),
    ("location", ["city", "region", "country", "address"]),
    ("city", ["location", "town"]),
    ("sentiment", ["rating", "score", "polarity"]),
    ("harsh", ["rating", "score"]),
    ("negative", ["rating", "score"]),
    ("bad", ["rating", "score"]),
    ("worst", ["rating", "score"]),
    ("good", ["rating", "score"]),
    ("positive", ["rating", "score"]),
    ("best", ["rating", "score"])]

/-- Words that never name a column. -/
def stopWords : List String :=
  ["a", "about", "all", "an", "and", "any", "are", "as", "at", "be", "been", "by", "can", "did",
    "do", "does", "each", "for", "from", "get", "give", "had", "has", "have", "how", "i", "in",
    "into", "is", "it", "its", "list", "me", "my", "of", "on", "or", "our", "per", "please",
    "show", "tell", "than", "that", "the", "their", "them", "there", "these", "this", "those",
    "to", "us", "was", "we", "were", "what", "which", "who", "whose", "why", "will", "with",
    "would", "you", "your"]

/-- Words of analysis, which name a column only if the column has that name. -/
def queryVocabulary : List String :=
  ["average", "avg", "mean", "sum", "total", "count", "max", "maximum", "min", "minimum",
    "median", "mode", "top", "bottom", "rank", "ranking", "ranked", "running", "rolling",
    "moving", "cumulative", "percent", "percentile", "trend", "daily", "weekly", "monthly",
    "quarterly", "yearly", "day", "week", "month", "quarter", "year", "compare", "group",
    "limit", "first", "last", "highest", "lowest", "number", "many", "where", "sort", "order"]

/-- Whether a token is a stop word. -/
def isStopWord (token : String) : Bool :=
  stopWords.contains token

/-- What kind of answer a question asks for. -/
inductive Topic
  | aggregation
  | ranking
  | percentile
  | trend
  | comparison
  | grouping
  | filtering
deriving DecidableEq, Repr, Inhabited

/-- The name of a topic. -/
def Topic.name : Topic → String
  | aggregation => "aggregation"
  | ranking => "ranking"
  | percentile => "percentile"
  | trend => "trend"
  | comparison => "comparison"
  | grouping => "grouping"
  | filtering => "filtering"

/-- The phrases that show each topic, in the order in which topics are reported. -/
def topicPhrases : List (Topic × List String) :=
  [(.aggregation, ["average", "avg", "mean", "sum", "total", "count", "how many", "number of",
      "median", "maximum", "minimum", "max", "min"]),
    (.ranking, ["top", "bottom", "rank", "ranking", "ranked", "best", "worst", "highest",
      "lowest"]),
    (.percentile, ["percentile", "percent", "quartile", "quartiles", "decile", "median"]),
    (.trend, ["trend", "over time", "daily", "weekly", "monthly", "quarterly", "yearly", "per day",
      "per week", "per month", "per quarter", "per year", "growth", "change"]),
    (.comparison, ["compare", "comparison", "versus", "vs", "difference", "between"]),
    (.grouping, ["group by", "grouped by", "per", "by", "for each", "each", "breakdown"]),
    (.filtering, ["where", "only", "filter", "above", "below", "greater than", "less than", "over",
      "under", "at least", "at most", "with"])]

/-- Praise or blame. -/
inductive Sentiment
  | negative
  | positive
deriving DecidableEq, Repr, Inhabited

/-- The name of a sentiment. -/
def Sentiment.name : Sentiment → String
  | negative => "negative"
  | positive => "positive"

/-- Words of praise and blame; the first that occurs in a question counts. -/
def sentimentTerms : List (String × Sentiment) :=
  [("harsh", .negative), ("negative", .negative), ("bad", .negative), ("worst", .negative),
    ("terrible", .negative), ("awful", .negative), ("poor", .negative), ("angry", .negative),
    ("unhappy", .negative), ("complaint", .negative), ("complaints", .negative),
    ("great", .positive), ("best", .positive), ("positive", .positive), ("excellent", .positive),
    ("good", .positive), ("happy", .positive), ("love", .positive), ("amazing", .positive)]

end TableTalk.Matching
