import TableTalk.Grouping.Interval
import TableTalk.Row

/-!
# Groups

Entries with one key form a group. Groups are sorted by key, and the entries of
a group keep their order.
-/

namespace TableTalk.Grouping

/-- Entries and the key that they share. -/
structure Group (κ ρ : Type) where
  key : κ
  entries : List ρ

/-- Puts an entry at the end of its group, among groups in the order of keys; a key that is new gets
a group in its place. -/
def addEntry {κ ρ : Type} [LT κ] [DecidableLT κ] (key : κ) (entry : ρ) :
    List (Group κ ρ) → List (Group κ ρ)
  | [] => [⟨key, [entry]⟩]
  | group :: groups =>
    if key < group.key then ⟨key, [entry]⟩ :: group :: groups
    else if group.key < key then group :: addEntry key entry groups
    else ⟨group.key, group.entries ++ [entry]⟩ :: groups

/-- The groups of entries by key, in the order of keys. -/
def groupBy {κ ρ : Type} [LT κ] [DecidableLT κ] (key : ρ → κ) (entries : List ρ) :
    List (Group κ ρ) :=
  entries.foldl (fun groups entry => addEntry (key entry) entry groups) []

/-- The groups of rows by the interval in which the date of a column lies. -/
def byInterval (column : String) (interval : Interval) (rows : Dataset) :
    List (Group String Row) :=
  groupBy (fun row => interval.keyOf (row.value column)) rows

end TableTalk.Grouping
