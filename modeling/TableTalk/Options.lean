import TableTalk.Cleaning.Options
import TableTalk.Decimal.Notation
import TableTalk.Matching.Column
import TableTalk.Statistics.Summary
import TableTalk.Yaml.Document

/-!
# Options of the engine

The settings that a configuration may change. All have defaults, and a
configuration names only those that it changes. A valid configuration has a
threshold between zero and one, a multiplier that is not negative, and no window,
bucket count or sample of size zero.
-/

namespace TableTalk

/-- The settings of the engine. -/
structure Options where
  /-- The least score of a match that is not exact. -/
  matchThreshold : Float := Matching.defaultThreshold
  clean : CleanOptions := {}
  /-- How far outliers lie from the outer quartiles, in terms of their distance. -/
  outlierMultiplier : Float := Statistics.defaultMultiplier
  rollingWindow : Nat := 3
  ntileBuckets : Nat := 4
  /-- The distance of the rows that lag and lead look at. -/
  lagOffset : Nat := 1
  /-- The number of turns that a session keeps. -/
  historyLimit : Nat := 20
deriving DecidableEq, Inhabited

namespace Options

/-- Why options are not valid. -/
inductive Fault
  | matchThreshold (value : Float)
  | outlierMultiplier (value : Float)
  | rollingWindow
  | ntileBuckets
  | sampleSize

/-- What is said of a fault. -/
def Fault.message (fault : Fault) : String :=
  "Invalid engine option: " ++
    match fault with
    | matchThreshold x => "match_threshold must be within [0, 1], got " ++ Decimal.plainText x
    | outlierMultiplier x =>
      "outlier_multiplier must be a non-negative number, got " ++ Decimal.plainText x
    | rollingWindow => "rolling_window must be at least 1"
    | ntileBuckets => "ntile_buckets must be at least 1"
    | sampleSize => "clean.sample_size must be at least 1"

/-- The first fault of the options, if there is one. -/
def fault? (options : Options) : Option Fault :=
  if !(Decimal.isAtMost 0.0 options.matchThreshold && Decimal.isAtMost options.matchThreshold 1.0)
  then some (.matchThreshold options.matchThreshold)
  else if !Decimal.isFinite options.outlierMultiplier ||
      Decimal.isLess options.outlierMultiplier 0.0 then
    some (.outlierMultiplier options.outlierMultiplier)
  else if options.rollingWindow = 0 then some .rollingWindow
  else if options.ntileBuckets = 0 then some .ntileBuckets
  else if options.clean.sampleSize = 0 then some .sampleSize
  else none

/-- The names of the fields. -/
def fieldNames : List FieldNames :=
  [["match_threshold"], ["clean"], ["outlier_multiplier"], ["rolling_window"], ["ntile_buckets"],
    ["lag_offset"], ["history_limit"]]

/-- Reads the options; whatever is missing keeps its default. -/
def read? {δ : Type} [Document δ] (node : δ) : Option Options := do
  let record ← Record.read? fieldNames node
  let standard : Options := {}
  let natural (name : String) (default : Nat) := record.withDefault name default Document.natural?
  let float (name : String) (default : Float) := record.withDefault name default Document.float?
  let matchThreshold ← float "match_threshold" standard.matchThreshold
  let clean ← record.withDefault "clean" standard.clean CleanOptions.read?
  let outlierMultiplier ← float "outlier_multiplier" standard.outlierMultiplier
  let rollingWindow ← natural "rolling_window" standard.rollingWindow
  let ntileBuckets ← natural "ntile_buckets" standard.ntileBuckets
  let lagOffset ← natural "lag_offset" standard.lagOffset
  let historyLimit ← natural "history_limit" standard.historyLimit
  pure { matchThreshold, clean, outlierMultiplier, rollingWindow, ntileBuckets, lagOffset,
         historyLimit }

/-- Reads options from YAML text; a blank text changes nothing. -/
def ofYamlText? (source : String) : Option Options :=
  if Text.trim source == "" then some {} else (Yaml.read? source).bind read?

/-- The options as a JSON object. -/
def toJson (options : Options) : Json :=
  .object
    [("match_threshold", .float options.matchThreshold),
      ("clean", options.clean.toJson),
      ("outlier_multiplier", .float options.outlierMultiplier),
      ("rolling_window", .ofNat options.rollingWindow),
      ("ntile_buckets", .ofNat options.ntileBuckets),
      ("lag_offset", .ofNat options.lagOffset),
      ("history_limit", .ofNat options.historyLimit)]

end Options

end TableTalk
