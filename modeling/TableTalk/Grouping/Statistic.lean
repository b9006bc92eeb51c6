import TableTalk.Decimal.Notation
import TableTalk.Grouping.Basic
import TableTalk.Json.Document
import TableTalk.Statistics.Summary

/-!
# Statistics by group

The figures that can be asked for, and tables with one row for each group.
-/

namespace TableTalk.Grouping

/-- A figure of a group's numbers. -/
inductive Statistic
  | count
  | sum
  | mean
  | median
  | deviation
  | variance
  | least
  | greatest
  | percentile (p : Float)
deriving DecidableEq

namespace Statistic

/-- The figures without parameter. -/
def plain : List Statistic :=
  [count, sum, mean, median, deviation, variance, least, greatest]

/-- The figures that are given unless others are asked for. -/
def standard : List Statistic := [count, sum, mean, least, greatest]

/-- The column of a figure. -/
def column : Statistic → String
  | count => "count"
  | sum => "sum"
  | mean => "mean"
  | median => "median"
  | deviation => "std_dev"
  | variance => "variance"
  | least => "min"
  | greatest => "max"
  | percentile p => "p" ++ Decimal.tableText p

/-- A figure that may be missing, as a value. -/
def valueOf : Option Float → Value
  | some x => .float x
  | none => .null

/-- Calculates a figure. -/
def compute (statistic : Statistic) (values : List Float) : Value :=
  match statistic with
  | count => .integer (Int64.ofNat values.length)
  | sum => .float (Quantity.sum values)
  | mean => valueOf (Statistics.mean values)
  | median => valueOf (Statistics.median values)
  | deviation => .float (Statistics.standardDeviation .sample values)
  | variance => .float (Statistics.variance .sample values)
  | least => valueOf (Statistics.least values)
  | greatest => valueOf (Statistics.greatest values)
  | percentile p => valueOf (Statistics.percentile values p)

/-- The figure as JSON: its name, or an object with the percentage. -/
def toJson : Statistic → Json
  | percentile p => .object [("percentile", .float p)]
  | other => .text other.column

/-- Reads a figure. -/
def read? {δ : Type} [Document δ] (node : δ) : Option Statistic :=
  match Document.members? node with
  | some [(.name "percentile", p)] => (Document.float? p).map percentile
  | _ => Document.named? (plain.map fun s => (s.column, s)) node

end Statistic

/-- How rows are grouped for figures. -/
inductive Key
  | none
  | column (name : String)
  | time (source : String) (interval : Interval)

/-- The key of a row. -/
def Key.ofRow (key : Key) (row : Row) : String :=
  match key with
  | .none => "all"
  | .column name => (row.value name).display
  | .time source interval => interval.keyOf (row.value source)

/-- The numbers of a column. -/
def columnNumbers (column : String) (rows : Dataset) : List Float :=
  rows.filterMap fun row => (row.value column).number?

/-- One row for each group: its key, and the figures of a column's numbers. -/
def statisticsBy (valueColumn : String) (key : Key) (statistics : List Statistic) (rows : Dataset) :
    Dataset :=
  (groupBy key.ofRow rows).map fun group =>
    let numbers := columnNumbers valueColumn group.entries
    Row.ofCells
      (("group", .text group.key) :: statistics.map fun s => (s.column, s.compute numbers))

end TableTalk.Grouping
