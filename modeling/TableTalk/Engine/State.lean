import TableTalk.Engine.Heuristics
import TableTalk.Intent.Calculation

/-!
# The state of an execution

The rows or groups that the steps so far have made, and the columns that hold
the figures calculated last. A step that names a column has to find it, itself
or as a figure calculated from it; a step that names none leaves the choice to
the data. Without rows every column is taken to be there.
-/

namespace TableTalk.Engine

/-- The place in a plan where a column is needed. -/
inductive Site
  | select
  | filter
  | group
  | timeGrouping
  | aggregate
  | window
  | slice
  | order
deriving DecidableEq, Repr, Inhabited

/-- The name of a site in messages about missing columns. -/
def Site.name : Site → String
  | select => "select"
  | filter => "filter"
  | group => "group"
  | timeGrouping => "time grouping"
  | aggregate => "aggregate"
  | window => "window"
  | slice => "percentile filter"
  | order => "order"

/-- What a number is needed for at a site. -/
def Site.purpose : Site → String
  | aggregate => "aggregation"
  | window => "window function"
  | order => "ordering"
  | other => other.name

/-- Why a step cannot be carried out. -/
inductive Fault
  | emptyDataset
  | missingColumn (column : String) (site : Site)
  | noNumericColumn (site : Site)
  | noDateColumn
  | noRatingColumn
  | missingPair (function : AggregateFunction)
deriving DecidableEq, Repr

/-- What is said of a fault. -/
def Fault.message : Fault → String
  | emptyDataset => "No data provided"
  | missingColumn column site => "Column '" ++ column ++ "' not found for " ++ site.name
  | noNumericColumn site => "No numeric column available for " ++ site.purpose
  | noDateColumn => "No date column available for time grouping"
  | noRatingColumn => "No rating column available for sentiment filter"
  | missingPair function => function.name ++ " requires two numeric columns"

/-- Rows that belong together, and the cells that they share as a group. -/
structure RowGroup where
  key : Row
  rows : Dataset
deriving DecidableEq

/-- What the steps so far have made. -/
inductive WorkingSet
  | rows (rows : Dataset)
  | groups (groups : List RowGroup)
deriving DecidableEq

namespace WorkingSet

/-- The column that counts the rows of a group. -/
def countColumn : String := "count"

/-- The row that a group shows as: its key and the number of its rows. -/
def groupRow (group : RowGroup) : Row :=
  group.key.insert countColumn (.integer (Int64.ofNat group.rows.length))

/-- The rows as they would be shown. -/
def output : WorkingSet → Dataset
  | .rows shown => shown
  | .groups found => found.map groupRow

/-- The number of rows shown. -/
def size : WorkingSet → Nat
  | .rows shown => shown.length
  | .groups found => found.length

/-- The rows of a group after a calculation, with the key of the group written onto each. -/
def partitionRows (apply : Dataset → Dataset) (group : RowGroup) : Dataset :=
  (apply group.rows).map fun row => row.insertAll group.key.cells

/-- Applies a calculation to all rows, or to the rows of each group. -/
def mapPartitions (apply : Dataset → Dataset) : WorkingSet → Dataset
  | .rows shown => apply shown
  | .groups found => found.flatMap (partitionRows apply)

/-- The first rows, of all groups together. -/
def sample : WorkingSet → Dataset
  | .rows shown => shown.take sampleSize
  | .groups found => (found.flatMap RowGroup.rows).take sampleSize

/-- All rows, or the first rows of all groups together. -/
def partitionSample : WorkingSet → Dataset
  | .rows shown => shown
  | working => working.sample

end WorkingSet

/-- The state between two steps. -/
structure State where
  working : WorkingSet
  /-- The columns of the latest aggregation. -/
  metrics : List String := []
  /-- The column over which the latest window function ran. -/
  windowColumn : Option String := none
deriving DecidableEq

namespace State

/-- The state with other rows. -/
def withRows (state : State) (rows : Dataset) : State :=
  { state with working := .rows rows }

/-- The column that a name stands for: itself if it is there, else a figure calculated from it. -/
def locate (state : State) (rows : Dataset) (column : String) : Option String :=
  match rows with
  | [] => none
  | first :: _ =>
    if first.hasColumn column then some column
    else
      state.metrics.find? fun metric =>
        Text.endsWith metric ("_" ++ column) && first.hasColumn metric

/-- The column for a step: the one that is named, which has to be there, or one that the data
suggests. There may be none only without rows. -/
def resolve (state : State) (rows : Dataset) (named : Option String) (site : Site)
    (suggest : Dataset → Option String) (missing : Fault) : Except Fault (Option String) :=
  if rows.isEmpty then .ok named
  else
    match named with
    | some column =>
      match state.locate rows column with
      | some found => .ok (some found)
      | none => .error (.missingColumn column site)
    | none =>
      match suggest rows with
      | some found => .ok (some found)
      | none => .error missing

end State

/-- Checks that the rows have some columns. -/
def requireColumns (rows : Dataset) (columns : List String) (site : Site) : Except Fault Unit :=
  match rows with
  | [] => .ok ()
  | first :: _ =>
    match columns.find? fun column => !first.hasColumn column with
    | some column => .error (.missingColumn column site)
    | none => .ok ()

end TableTalk.Engine
