import TableTalk.Intent.Calculation
import TableTalk.Grouping.Interval

/-!
# Keywords of questions

The phrases that name calculations, intervals and directions. Of the phrases of
windows and intervals the first in the list that occurs in a question counts, so
longer phrases stand before shorter ones that they contain.
-/

namespace TableTalk.Question

/-- Phrases that ask for a window function. -/
def windowPhrases : List (String × WindowFunction) :=
  [("dense rank", .denseRank), ("dense_rank", .denseRank),
    ("row number", .rowNumber), ("row_number", .rowNumber),
    ("running total", .runningTotal), ("running sum", .runningTotal),
    ("cumulative total", .runningTotal), ("cumulative sum", .runningTotal),
    ("running average", .runningAvg), ("running avg", .runningAvg),
    ("cumulative average", .runningAvg),
    ("rolling average", .rollingAvg), ("rolling avg", .rollingAvg),
    ("moving average", .rollingAvg), ("moving avg", .rollingAvg),
    ("percent rank", .percentRank), ("percent_rank", .percentRank),
    ("percentile rank", .percentRank),
    ("previous", .lag), ("lag", .lag), ("lead", .lead),
    ("ntile", .ntile), ("quartiles", .ntile), ("deciles", .ntile), ("buckets", .ntile),
    ("percentile", .percentile),
    ("ranking", .rank), ("ranked", .rank), ("rank", .rank)]

/-- Phrases that ask for each aggregate function. -/
def aggregatePhrases : List (AggregateFunction × List String) :=
  [(.avg, ["average", "avg", "mean"]),
    (.sum, ["sum", "total"]),
    (.count, ["count", "how many", "number of"]),
    (.max, ["maximum", "max", "highest", "largest"]),
    (.min, ["minimum", "min", "lowest", "smallest"]),
    (.median, ["median"]),
    (.mode, ["mode", "most common", "most frequent"]),
    (.stdev, ["standard deviation", "std dev", "stdev", "stddev", "std"]),
    (.variance, ["variance"]),
    (.correlation, ["correlation", "correlate", "correlated"]),
    (.covariance, ["covariance"])]

/-- Phrases that ask for figures by time. -/
def timePhrases : List (String × Interval) :=
  [("daily", .day), ("per day", .day), ("by day", .day), ("each day", .day), ("every day", .day),
    ("by date", .day), ("per date", .day), ("day over day", .day),
    ("weekly", .week), ("per week", .week), ("by week", .week), ("each week", .week),
    ("week over week", .week),
    ("monthly", .month), ("per month", .month), ("by month", .month), ("each month", .month),
    ("month over month", .month),
    ("quarterly", .quarter), ("per quarter", .quarter), ("by quarter", .quarter),
    ("each quarter", .quarter),
    ("yearly", .year), ("annually", .year), ("annual", .year), ("per year", .year),
    ("by year", .year), ("each year", .year), ("year over year", .year),
    ("over time", .month)]

/-- Words for time, by which no group is formed. -/
def timeUnits : List String :=
  ["day", "days", "daily", "week", "weeks", "weekly", "month", "months", "monthly", "quarter",
    "quarters", "quarterly", "year", "years", "yearly", "annual", "date", "time"]

/-- Verbs of ordering, after which "by" names no group. -/
def sortVerbs : List String :=
  ["sort", "sorted", "order", "ordered", "rank", "ranked", "ranking"]

/-- Phrases for rising order. -/
def ascendingPhrases : List String :=
  ["ascending", "asc", "lowest first", "smallest first", "increasing order", "oldest first"]

/-- Phrases for falling order. -/
def descendingPhrases : List String :=
  ["descending", "desc", "highest first", "largest first", "decreasing order", "newest first",
    "most recent first"]

/-- Parts of names of columns of dates. -/
def dateHints : List String := ["date", "time", "created", "updated", "timestamp"]

/-- Words between a calculation and the column that it names. -/
def targetFillers : List String := ["of", "the", "a", "an", "all"]

/-- What is asked back if a question names no column and no calculation. -/
def clarification : String :=
  "Which columns or metrics would you like to analyze? Mention a column name or a calculation " ++
    "such as average, total or count."

end TableTalk.Question
