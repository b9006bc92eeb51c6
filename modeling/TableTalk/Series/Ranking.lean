import TableTalk.Series.Order

/-!
# Ranks

Row numbers, ranks and buckets. Rows are sorted first; rows that follow each
other with equal cells share a rank.
-/

namespace TableTalk.Series

/-- A row number, rank or count as a value. -/
def count (n : Nat) : Value :=
  .integer (Int64.ofNat n)

/-- Puts the number of each sorted row into it. -/
def rowNumber (column : String) (direction : Direction) (rows : Dataset) : Dataset :=
  let sorted := sortRows column direction rows
  attach "row_number" ((List.range sorted.length).map fun i => count (i + 1)) sorted

/-- Whether ranks skip the places that ties take up. -/
inductive Gaps
  | skipped
  | closed
deriving DecidableEq, Repr

/-- The ranks of the values that follow `previous`, which stands at place `index` with rank
`current`. -/
def ranksAfter (gaps : Gaps) (previous : Value) (index current : Nat) : List Value → List Nat
  | [] => []
  | value :: values =>
    let rank :=
      if previous.compare value == .eq then current
      else
        match gaps with
        | .skipped => index + 1
        | .closed => current + 1
    rank :: ranksAfter gaps value (index + 1) rank values

/-- The ranks of sorted values. -/
def ranks (gaps : Gaps) : List Value → List Nat
  | [] => []
  | value :: values => 1 :: ranksAfter gaps value 1 1 values

/-- Sorts rows and puts their ranks, as values, into a column. -/
def rankInto (target : String) (gaps : Gaps) (toValue : Nat → Value) (column : String)
    (direction : Direction) (rows : Dataset) : Dataset :=
  let sorted := sortRows column direction rows
  attach target ((ranks gaps (sorted.map fun row => row.value column)).map toValue) sorted

/-- Ranks with gaps after ties. -/
def rank : String → Direction → Dataset → Dataset :=
  rankInto "rank" .skipped count

/-- Ranks without gaps. -/
def denseRank : String → Direction → Dataset → Dataset :=
  rankInto "dense_rank" .closed count

/-- A rank as a share of the rows after the first. -/
def percentRankOf (total rank : Nat) : Value :=
  .float (if total ≤ 1 then 0.0 else Float.ofNat (rank - 1) / Float.ofNat (total - 1))

/-- Ranks between zero and one. -/
def percentRank (column : String) (direction : Direction) (rows : Dataset) : Dataset :=
  rankInto "percent_rank" .skipped (percentRankOf rows.length) column direction rows

/-- The number of rows of a bucket when `total` rows are split into `buckets`. -/
def bucketSize (total buckets : Nat) : Nat :=
  max ((total + (max buckets 1 - 1)) / max buckets 1) 1

/-- Splits rows, as they stand, into buckets of one size and numbers the buckets. -/
def ntile (buckets : Nat) (rows : Dataset) : Dataset :=
  let size := bucketSize rows.length buckets
  attach "ntile" ((List.range rows.length).map fun i => count (i / size + 1)) rows

end TableTalk.Series
