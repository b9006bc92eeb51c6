import TableTalk.Listing
import TableTalk.Value

/-!
# Frequency tables

How often values occur, where values with one display count as one. The most
frequent come first, and of equally frequent ones the one seen first.
-/

namespace TableTalk.Statistics

/-- The finite numbers among values. -/
def numbers (values : List Value) : List Float :=
  values.filterMap Value.number?

/-- A value and how often it occurs. -/
structure Frequency where
  value : Value
  count : Nat
  /-- The share in percent, if asked for. -/
  percentage : Option Float

/-- The frequency of a value among values with the same display. -/
def frequencyOf (values : List Value) (withPercentage : Bool) (value : Value) : Frequency :=
  let count := values.countP fun other => other.display == value.display
  { value, count
    percentage :=
      if withPercentage then
        some (Float.ofNat count / Float.ofNat values.length * 100.0)
      else none }

/-- The frequency table of values. -/
def frequencies (values : List Value) (withPercentage : Bool) : List Frequency :=
  let entries := (Listing.distinctBy Value.display values).map (frequencyOf values withPercentage)
  Listing.sort (fun a b => b.count < a.count) entries

end TableTalk.Statistics
