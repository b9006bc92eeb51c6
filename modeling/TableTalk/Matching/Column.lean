import TableTalk.Matching.EditDistance
import TableTalk.Matching.NormalForm
import TableTalk.Matching.Vocabulary
import TableTalk.Quantity

/-!
# Matching a term to a column

A column whose normal form is that of the term is an exact match, wherever it
stands. Otherwise every column is scored in tiers: a synonym, then one name
containing the other, then similarity by edit distance. The highest score that
reaches the threshold wins, and of equal scores the first.
-/

namespace TableTalk.Matching

/-- How a term matches a column. -/
inductive MatchKind
  | exact
  | synonym
  | contains
  | fuzzy
  | none
deriving DecidableEq, Repr, Inhabited

/-- The name of a kind of match. -/
def MatchKind.name : MatchKind → String
  | exact => "exact"
  | synonym => "synonym"
  | contains => "contains"
  | fuzzy => "fuzzy"
  | none => "none"

/-- All kinds of matches. -/
def MatchKind.all : List MatchKind := [exact, synonym, contains, fuzzy, none]

/-- A column that matches a term. -/
structure ColumnMatch (α : Type) where
  column : String
  score : α
  kind : MatchKind

variable {α : Type} [Quantity α]

/-- One less the edit distance as a share of the longer text; one for two empty texts. -/
def similarity (a b : String) : α :=
  let longest := max (Text.charCount a) (Text.charCount b)
  if longest = 0 then Quantity.ofNat 1
  else Quantity.ofNat 1 - Quantity.ratio (editDistance a.toList b.toList) longest

/-- The words that a normal form may stand for, as normal forms. -/
def synonymsOf (term : String) : List String :=
  (((synonyms.lookup term).getD []).map normalForm).filter fun word => word != ""

/-- Scores a column that is no exact match; both names are normal forms. -/
def score (term candidate : String) : α × MatchKind :=
  if (synonymsOf term).any (Text.contains candidate) then (Quantity.ratio 95 100, .synonym)
  else if Text.contains candidate term || Text.contains term candidate then
    (Quantity.ratio 85 100, .contains)
  else (similarity term candidate, .fuzzy)

/-- Takes the column if its score reaches the threshold and is above the best so far, which is zero
as long as there is none. -/
def better (term : String) (threshold : α) (best : Option (ColumnMatch α)) (column : String) :
    Option (ColumnMatch α) :=
  let candidate := normalForm column
  if candidate == "" then best
  else
    let (value, kind) := score term candidate
    let standing := (best.map ColumnMatch.score).getD (Quantity.ofNat 0)
    if Quantity.isAtMost threshold value && Quantity.isLess standing value then
      some ⟨column, value, kind⟩
    else best

/-- The column that matches a term best, if any does. -/
def bestMatch (term : String) (columns : List String) (threshold : α) :
    Option (ColumnMatch α) :=
  let form := normalForm term
  if form == "" then none
  else
    match columns.find? fun column => normalForm column == form with
    | some column => some ⟨column, Quantity.ofNat 1, .exact⟩
    | none => columns.foldl (better form threshold) none

/-- The threshold that is used unless another one is set. -/
def defaultThreshold : Float := 0.5

end TableTalk.Matching
