import Mathlib.Data.List.Basic
import TableTalk.Intent.Basic
import TableTalk.Proofs.Json.Carrying

/-!
# Intents and their parts as JSON

Writing a part of an intent and reading it gives it back, with two exceptions: numbers
that are not finite, and dates among the values of conditions.
-/

namespace TableTalk

variable {δ : Type} [Document δ] {carry : Json → δ}

/-- The value is neither a date nor a number that is not finite. -/
def Value.IsKept : Value → Prop
  | .float x => Decimal.isFinite x = true
  | .date _ => False
  | _ => True

/-- Numbers and dates that are not kept are read as null and as texts. -/
theorem Value.ofContent?_contentOf (value : Value) :
    ofContent? value.toJson.contentOf = some value ↔ value.IsKept := by
  cases value with
  | null | boolean | text => exact iff_of_true rfl trivial
  | integer i =>
    refine iff_of_true ?_ trivial
    have hwhole : ofWhole i.toInt = integer i := by
      rw [ofWhole, if_pos ⟨i.minValue_le_toInt, i.toInt_le⟩, Int64.ofInt_toInt]
    rw [toJson, Json.contentOf, Json.wholeContent]
    split
    case isTrue hle => rw [ofContent?, Int.toNat_of_nonneg hle, hwhole]
    case isFalse => rw [ofContent?, hwhole]
  | float x =>
    rw [toJson, Json.contentOf, IsKept]
    split <;> simp_all [ofContent?]
  | date t => simp [toJson, Json.contentOf, ofContent?, IsKept]

theorem Carries.restores_value (carries : Carries carry) :
    Restores carry Value.toJson Value.read? Value.IsKept := by
  intro value
  rw [Value.read?, carries.content, Option.bind_some]
  exact value.ofContent?_contentOf

section Names

theorem Operator.lookup_name (op : Operator) :
    (all.map fun op => (op.name, op)).lookup op.name = some op := by
  cases op <;> decide

theorem AggregateFunction.lookup_name (f : AggregateFunction) :
    (all.map fun f => (f.name, f)).lookup f.name = some f := by
  cases f <;> decide

theorem WindowFunction.lookup_name (f : WindowFunction) :
    (all.map fun f => (f.name, f)).lookup f.name = some f := by
  cases f <;> decide

theorem Interval.lookup_name (i : Interval) :
    (all.map fun i => (i.name, i)).lookup i.name = some i := by
  cases i <;> decide

theorem Matching.MatchKind.lookup_name (kind : MatchKind) :
    (all.map fun kind => (kind.name, kind)).lookup kind.name = some kind := by
  cases kind <;> decide

theorem Side.lookup_name (side : Side) :
    [(top.name, top), (bottom.name, bottom)].lookup side.name = some side := by
  cases side <;> decide

theorem Direction.lookup_name (direction : Direction) :
    [(ascending.name, ascending), (descending.name, descending)].lookup direction.name =
      some direction := by
  cases direction <;> decide

theorem Matching.Sentiment.lookup_name (sentiment : Sentiment) :
    [(negative.name, negative), (positive.name, positive)].lookup sentiment.name =
      some sentiment := by
  cases sentiment <;> decide

end Names

/-- The value of the condition is kept. -/
def Condition.IsKept (c : Condition) : Prop :=
  c.value.IsKept

/-- The threshold of the comparison is finite. -/
def SentimentFilter.IsKept (filter : SentimentFilter) : Prop :=
  Decimal.isFinite filter.threshold = true

def PercentSlice.IsKept (slice : PercentSlice) : Prop :=
  Decimal.isFinite slice.percent = true

def Matching.Reference.IsKept (r : Reference) : Prop :=
  Decimal.isFinite r.score = true

/-- All numbers of the intent are finite, and no condition compares with a date. -/
@[mk_iff]
structure Intent.IsKept (intent : Intent) : Prop where
  references : ∀ r ∈ intent.references, r.IsKept
  filters : ∀ c ∈ intent.filters, c.IsKept
  slice : ∀ s ∈ intent.slice, s.IsKept
  sentiment : ∀ s ∈ intent.sentiment, s.IsKept

section Parts

variable (carries : Carries carry)
include carries

theorem Carries.restores_condition :
    Restores carry Condition.toJson Condition.read? Condition.IsKept := by
  rintro ⟨column, op, value⟩
  have own : OwnNames [["column"], ["operator"], ["value"]] ["column", "operator", "value"] := by
    decide
  simp [Condition.read?, Condition.toJson, Condition.operator?, Condition.IsKept,
    carries.read?_object own, List.lookup_cons, Option.bind_eq_some_iff, carries.text,
    carries.named _ op.lookup_name, carries.restores_value value]

theorem Carries.restores_aggregation :
    Restores carry Aggregation.toJson Aggregation.read? fun _ => True := by
  rintro ⟨function, column, pairedWith⟩
  cases pairedWith with
  | none =>
    have own : OwnNames [["function"], ["column"], ["paired_with"]] ["function", "column"] := by
      decide
    simp [Aggregation.read?, Aggregation.toJson, AggregateFunction.read?, carries.read?_object own,
      List.lookup_cons, carries.named _ function.lookup_name, carries.optional_text]
  | some other =>
    have own : OwnNames [["function"], ["column"], ["paired_with"]]
      ["function", "column", "paired_with"] := by decide
    have hother := carries.optional_text (some other)
    rw [Json.ofOption] at hother
    simp [Aggregation.read?, Aggregation.toJson, AggregateFunction.read?, carries.read?_object own,
      List.lookup_cons, carries.named _ function.lookup_name, carries.optional_text, hother]

theorem Carries.restores_window :
    Restores carry WindowRequest.toJson WindowRequest.read? fun _ => True := by
  rintro ⟨function, column⟩
  have own : OwnNames [["function"], ["column"]] ["function", "column"] := by decide
  simp [WindowRequest.read?, WindowRequest.toJson, carries.read?_object own, List.lookup_cons,
    carries.named _ function.lookup_name, carries.optional_text]

theorem Carries.restores_time :
    Restores carry TimeAnalysis.toJson TimeAnalysis.read? fun _ => True := by
  rintro ⟨interval, column⟩
  have own : OwnNames [["interval"], ["column"]] ["interval", "column"] := by decide
  simp [TimeAnalysis.read?, TimeAnalysis.toJson, TimeAnalysis.interval?, carries.read?_object own,
    List.lookup_cons, carries.named _ interval.lookup_name, carries.optional_text]

theorem Carries.restores_slice :
    Restores carry PercentSlice.toJson PercentSlice.read? PercentSlice.IsKept := by
  rintro ⟨percent, side, column⟩
  have own : OwnNames [["percent"], ["side"], ["column"]] ["percent", "side", "column"] := by decide
  simp [PercentSlice.read?, PercentSlice.toJson, PercentSlice.side?, PercentSlice.IsKept,
    carries.read?_object own, List.lookup_cons, Option.bind_eq_some_iff,
    carries.restores_float percent, carries.named _ side.lookup_name,
    carries.optional_text]

theorem Carries.restores_sentiment :
    Restores carry SentimentFilter.toJson SentimentFilter.read? SentimentFilter.IsKept := by
  rintro ⟨term, sentiment, column, op, threshold⟩
  have own : OwnNames [["term"], ["sentiment"], ["column"], ["operator"], ["threshold"]]
    ["term", "sentiment", "column", "operator", "threshold"] := by decide
  simp [SentimentFilter.read?, SentimentFilter.toJson, SentimentFilter.sentiment?,
    Condition.operator?, SentimentFilter.IsKept, carries.read?_object own, List.lookup_cons,
    Option.bind_eq_some_iff, carries.text, carries.restores_float threshold, carries.named _ sentiment.lookup_name,
    carries.named _ op.lookup_name, carries.optional_text]

theorem Carries.restores_reference :
    Restores carry Matching.Reference.toJson Matching.Reference.read?
      Matching.Reference.IsKept := by
  rintro ⟨column, term, score, kind⟩
  have own : OwnNames [["column"], ["term"], ["score"], ["kind"]]
    ["column", "term", "score", "kind"] := by decide
  simp [Matching.Reference.read?, Matching.Reference.toJson, Matching.Reference.kind?,
    Matching.Reference.IsKept, carries.read?_object own, List.lookup_cons,
    Option.bind_eq_some_iff, carries.text, carries.restores_float score, carries.named _ kind.lookup_name]

end Parts

section Whole

theorem reads_eq_some_iff {α β : Type} {read : Option α} {rest : α → Option β} {b : β} :
    (read >>= rest) = some b ↔ ∃ a, read = some a ∧ rest a = some b :=
  Option.bind_eq_some_iff

variable (carries : Carries carry)
include carries

theorem Carries.restores_intent : Restores carry Intent.toJson Intent.read? Intent.IsKept := by
  intro intent
  have own : OwnNames Intent.fieldNames ["question", "columns", "aggregations", "filters",
    "group_by", "window_function", "time_analysis", "order", "order_column", "limit",
    "percentile_filter", "semantic_filter", "clarification_needed", "clarification_question",
    "inherited_context"] := by decide
  have hreferences := carries.restores_list carries.restores_reference intent.references
  have haggregations := carries.restores_list carries.restores_aggregation intent.aggregations
  have hfilters := carries.restores_list carries.restores_condition intent.filters
  have hgroupBy := carries.restores_list carries.restores_text intent.groupBy
  have hwindow := carries.restores_option (fun _ => rfl) carries.restores_window intent.window
  have htime := carries.restores_option (fun _ => rfl) carries.restores_time intent.time
  have horder := carries.restores_option (fun _ => rfl)
    (carries.restores_named Direction.lookup_name) intent.order
  have hlimit := carries.restores_option (fun _ => rfl)
    (fun n => iff_true_intro (carries.natural n)) intent.limit
  have hslice := carries.restores_option (fun _ => rfl) carries.restores_slice intent.slice
  have hsentiment :=
    carries.restores_option (fun _ => rfl) carries.restores_sentiment intent.sentiment
  obtain ⟨⟩ := intent
  rw [Intent.read?, Intent.toJson, carries.read?_object own rfl]
  -- from the outside in, since the readers of later fields stand under binders
  simp only [↓ reads_eq_some_iff, Option.some.injEq, exists_eq_left', Option.pure_def]
  simp [Intent.direction?, Intent.isKept_iff, List.lookup_cons, carries.text, carries.bool,
    carries.optional_text, hreferences, haggregations, hfilters, hgroupBy, hwindow, htime, horder,
    hlimit, hslice, hsentiment]

end Whole

end TableTalk
