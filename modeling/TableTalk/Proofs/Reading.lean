import Mathlib.Data.Option.Basic
import TableTalk.Proofs.Listing
import TableTalk.Proofs.Planning
import TableTalk.Question.Reading

/-!
# Readings name columns of the schema

Whatever is asked, every column that the reading of a question names is one of the
columns that the question is about: words are matched against these columns only,
and roles that are filled in later take columns that are there already. A schema
of rows has the columns of the rows.
-/

namespace TableTalk

namespace Matching

variable {term : String} {columns : List String}

section Exact

variable {α : Type} [Quantity α] {threshold : α} {best : Option (ColumnMatch α)}
  {found : ColumnMatch α}

theorem better_eq_some {column : String} (h : better term threshold best column = some found) :
    found.column = column ∨ best = some found := by
  rw [better] at h
  dsimp only at h
  split at h
  · exact Or.inr h
  · split at h
    · exact Or.inl (congrArg ColumnMatch.column (Option.some.inj h).symm)
    · exact Or.inr h

theorem foldl_better_eq_some (h : columns.foldl (better term threshold) best = some found) :
    found.column ∈ columns ∨ best = some found := by
  induction columns generalizing best with
  | nil => exact Or.inr h
  | cons column columns ih =>
    rw [List.foldl_cons] at h
    rcases ih h with hmem | hbest
    · exact Or.inl (List.mem_cons_of_mem _ hmem)
    · rcases better_eq_some hbest with heq | hbest
      · exact Or.inl (heq ▸ List.mem_cons_self)
      · exact Or.inr hbest

/-- A word is matched with one of the columns. -/
theorem mem_of_bestMatch (h : bestMatch term columns threshold = some found) :
    found.column ∈ columns := by
  unfold bestMatch at h
  dsimp only at h
  split at h
  · cases h
  · split at h
    case h_1 column hfind =>
      rw [← Option.some.inj h]
      exact List.mem_of_find?_eq_some hfind
    case h_2 => exact (foldl_better_eq_some h).resolve_right (by simp)

end Exact

theorem mem_of_reference? {threshold : Float} {reference : Reference}
    (h : reference? columns threshold term = some reference) : reference.column ∈ columns := by
  unfold reference? at h
  split at h
  · simp at h
  · simp only [Option.bind_eq_bind, Option.bind_eq_some_iff, Option.pure_def] at h
    obtain ⟨found, hfound, h⟩ := h
    split at h
    · simp at h
    · split at h
      · simp at h
      · rw [← Option.some.inj h]
        exact mem_of_bestMatch hfound

/-- A question refers to some of the columns. -/
theorem mem_of_references {question : String} {threshold : Float} {reference : Reference}
    (h : reference ∈ references question columns threshold) : reference.column ∈ columns := by
  obtain ⟨token, -, htoken⟩ := List.mem_filterMap.mp (Listing.mem_of_mem_distinctBy h)
  exact mem_of_reference? htoken

end Matching

namespace Question

open Matching (Reference)

variable {columns : List String} {column word text scan question : String} {threshold : Float}
  {schema : Schema} {intent : Intent} {references : List Reference}

theorem mem_of_columnOf (h : columnOf columns threshold word = some column) : column ∈ columns := by
  obtain ⟨found, hfound, rfl⟩ := Option.map_eq_some_iff.mp h
  exact Matching.mem_of_bestMatch hfound

theorem column_slice? {slice : PercentSlice} (h : slice? text = some slice) :
    slice.column = none := by
  simp only [slice?, Option.bind_eq_bind, Option.bind_eq_some_iff, Option.pure_def] at h
  obtain ⟨_, -, _, -, h⟩ := h
  rw [← Option.some.inj h]

theorem column_windowAndRest {request : WindowRequest} {rest : String}
    (h : windowAndRest text = (some request, rest)) : request.column = none := by
  rw [windowAndRest] at h
  split at h
  · rw [← Option.some.inj (congrArg Prod.fst h)]
  · cases h

theorem exists_of_columnAfter {phrase words : List String}
    (h : columnAfter references phrase words = some column) :
    ∃ reference ∈ references, reference.column = column := by
  induction words with
  | nil => cases h
  | cons word words ih =>
    rw [columnAfter] at h
    split at h
    case h_1 reference hnamed =>
      obtain rfl := Option.some.inj h
      split at hnamed
      · obtain ⟨next, -, hnamed⟩ := Option.bind_eq_some_iff.mp hnamed
        exact ⟨reference, List.mem_of_find?_eq_some hnamed, rfl⟩
      · cases hnamed
    case h_2 => exact ih h

theorem exists_of_mem_aggregations {ranking : Bool} {aggregation : Aggregation}
    (h : aggregation ∈ aggregations references ranking text) :
    (∀ column, aggregation.column = some column →
      ∃ reference ∈ references, reference.column = column) ∧ aggregation.pairedWith = none := by
  obtain ⟨entry, -, rfl⟩ := List.mem_map.mp h
  refine ⟨?_, rfl⟩
  intro column hcolumn
  dsimp only at hcolumn
  split at hcolumn
  · cases hcolumn
  · obtain ⟨phrase, -, hphrase⟩ := List.exists_of_findSome?_eq_some hcolumn
    exact exists_of_columnAfter hphrase

theorem mem_of_time? {analysis : TimeAnalysis}
    (hreferences : ∀ reference ∈ references, reference.column ∈ schema.columnNames)
    (h : time? references schema text = some analysis) (named : analysis.column = some column) :
    column ∈ schema.columnNames := by
  rw [time?, Option.map_eq_some_iff] at h
  obtain ⟨entry, -, rfl⟩ := h
  dsimp only at named
  rcases List.mem_append.mp (List.mem_of_find?_eq_some named) with hmem | hmem
  · obtain ⟨reference, hreference, rfl⟩ := List.mem_map.mp hmem
    exact hreferences reference hreference
  · exact hmem

theorem mem_of_sortColumn? (h : sortColumn? columns threshold scan = some column) :
    column ∈ columns := by
  obtain ⟨found, -, hfound⟩ := List.exists_of_findSome?_eq_some h
  exact mem_of_columnOf hfound

theorem mem_of_mentions {mention : Mention} (h : mention ∈ mentions columns threshold scan) :
    mention.column ∈ columns := by
  obtain ⟨found, -, h⟩ := List.mem_filterMap.mp h
  unfold mention? at h
  dsimp only at h
  split at h
  · cases h
  · split at h
    · cases h
    · obtain ⟨column, hcolumn, rfl⟩ := Option.map_eq_some_iff.mp h
      exact mem_of_columnOf hcolumn

theorem mem_of_comparisons {condition : Condition}
    (h : condition ∈ comparisons columns threshold scan) : condition.column ∈ columns := by
  rw [comparisons, List.mem_filterMap] at h
  obtain ⟨found, -, h⟩ := h
  simp only [Option.bind_eq_bind, Option.bind_eq_some_iff, Option.pure_def, Option.some.injEq] at h
  obtain ⟨_, -, column, hcolumn, _, -, h⟩ := h
  rw [← h]
  exact mem_of_columnOf hcolumn

theorem mem_of_sentimentFilter? {filter : SentimentFilter}
    (h : sentimentFilter? columns threshold question = some filter)
    (named : filter.column = some column) : column ∈ columns := by
  rw [sentimentFilter?, Option.map_eq_some_iff] at h
  obtain ⟨⟨term, sentiment⟩, -, rfl⟩ := h
  dsimp only at named
  exact mem_of_columnOf named

/-- In every role, an intent names no other columns than these. -/
structure NamesOnly (columns : List String) (intent : Intent) : Prop where
  references : ∀ reference ∈ intent.references, reference.column ∈ columns
  groups : ∀ column ∈ intent.groupBy, column ∈ columns
  time : ∀ column, intent.timeColumn = some column → column ∈ columns
  conditions : ∀ condition ∈ intent.filters, condition.column ∈ columns
  sentiment : ∀ filter, intent.sentiment = some filter →
    ∀ column, filter.column = some column → column ∈ columns
  aggregations : ∀ aggregation ∈ intent.aggregations, ∀ column,
    aggregation.column = some column ∨ aggregation.pairedWith = some column → column ∈ columns
  window : ∀ request, intent.window = some request →
    ∀ column, request.column = some column → column ∈ columns
  slice : ∀ slice, intent.slice = some slice →
    ∀ column, slice.column = some column → column ∈ columns
  order : ∀ column, intent.orderColumn = some column → column ∈ columns

namespace NamesOnly

theorem mem (only : NamesOnly columns intent) (h : intent.Names column) : column ∈ columns := by
  cases h with
  | reference h => exact only.references _ h
  | group h => exact only.groups _ h
  | time h => exact only.time _ h
  | condition h => exact only.conditions _ h
  | sentiment h named => exact only.sentiment _ h _ named
  | aggregated h named => exact only.aggregations _ h _ named
  | window h named => exact only.window _ h _ named
  | slice h named => exact only.slice _ h _ named
  | order h => exact only.order _ h

theorem withGroups {found : List Mention} (only : NamesOnly columns intent)
    (hfound : ∀ mention ∈ found, mention.column ∈ columns) :
    NamesOnly columns (withGroups found intent) := by
  refine { only with groups := fun column h => ?_, order := fun column h => ?_ }
  · obtain ⟨mention, hmention, rfl⟩ := List.mem_map.mp (List.mem_eraseDups.mp h)
    exact hfound mention (List.mem_filter.mp hmention).1
  · rcases (Option.orElse_eq_some _ _ _).mp h with h | ⟨-, h⟩
    · exact only.order column h
    · obtain ⟨mention, hmention, rfl⟩ := Option.map_eq_some_iff.mp h
      exact hfound mention (List.mem_of_find?_eq_some hmention)

theorem withConditions {filters : List Condition} {sentiment : Option SentimentFilter}
    (only : NamesOnly columns intent) (hfilters : ∀ condition ∈ filters, condition.column ∈ columns)
    (hsentiment : ∀ filter, sentiment = some filter →
      ∀ column, filter.column = some column → column ∈ columns) :
    NamesOnly columns { intent with filters, sentiment } :=
  { only with conditions := hfilters, sentiment := hsentiment }

theorem groupRankedAggregates (only : NamesOnly columns intent) :
    NamesOnly columns (groupRankedAggregates schema intent) := by
  unfold Question.groupRankedAggregates
  dsimp only
  split
  · exact only
  · refine { only with groups := fun column h => ?_ }
    obtain ⟨reference, hreference, rfl⟩ := List.mem_map.mp (List.mem_filter.mp h).1
    exact only.references reference (List.mem_filter.mp hreference).1

theorem mem_of_candidates (only : NamesOnly columns intent) (h : column ∈ candidates intent) :
    column ∈ columns := by
  have hfree : column ∈ intent.columnNames := by
    unfold candidates at h
    dsimp only at h
    split at h
    · exact (List.mem_filter.mp h).1
    · exact (List.mem_filter.mp (List.mem_filter.mp h).1).1
  obtain ⟨reference, hreference, rfl⟩ := List.mem_map.mp hfree
  exact only.references reference hreference

theorem mem_of_fillAggregation {free : List String} {aggregation : Aggregation}
    (hfree : ∀ column ∈ free, column ∈ columns)
    (hnamed : ∀ column, aggregation.column = some column ∨ aggregation.pairedWith = some column →
      column ∈ columns)
    (h : (fillAggregation free aggregation).column = some column ∨
      (fillAggregation free aggregation).pairedWith = some column) : column ∈ columns := by
  unfold fillAggregation at h
  split at h
  · exact hnamed column h
  · rcases h with h | h
    · rcases (Option.orElse_eq_some _ _ _).mp h with h | ⟨-, h⟩
      · exact hnamed column (Or.inl h)
      · exact hfree column (List.mem_of_head? h)
    · dsimp only at h
      split at h
      · rcases (Option.orElse_eq_some _ _ _).mp h with h | ⟨-, h⟩
        · exact hnamed column (Or.inr h)
        · exact hfree column (List.mem_of_find?_eq_some h)
      · exact hnamed column (Or.inr h)

theorem assignRoles (only : NamesOnly columns intent) :
    NamesOnly columns (assignRoles intent) := by
  have hfree : ∀ column ∈ candidates intent, column ∈ columns :=
    fun column h => only.mem_of_candidates h
  have haggregations : ∀ aggregation ∈ (Question.assignRoles intent).aggregations, ∀ column,
      aggregation.column = some column ∨ aggregation.pairedWith = some column →
        column ∈ columns := by
    intro aggregation h column named
    obtain ⟨original, horiginal, rfl⟩ := List.mem_map.mp h
    exact mem_of_fillAggregation hfree (only.aggregations original horiginal) named
  have hmetric {column : String}
      (h : metric? (Question.assignRoles intent).aggregations = some column) : column ∈ columns := by
    obtain ⟨aggregation, hmem, hcolumn⟩ := List.exists_of_findSome?_eq_some h
    exact haggregations aggregation hmem column (Or.inl hcolumn)
  refine { only with
    aggregations := haggregations
    window := fun _ h column named => ?_
    slice := fun _ h column named => ?_ }
  case refine_1 =>
    obtain ⟨request, hrequest, rfl⟩ := Option.map_eq_some_iff.mp h
    rcases (Option.orElse_eq_some _ _ _).mp named with named | ⟨-, named⟩
    · exact only.window request hrequest column named
    rcases (Option.orElse_eq_some _ _ _).mp named with named | ⟨-, named⟩
    · split at named
      · exact only.order column named
      · cases named
    rcases (Option.orElse_eq_some _ _ _).mp named with named | ⟨-, named⟩
    · exact hmetric named
    · exact hfree column (List.mem_of_head? named)
  case refine_2 =>
    obtain ⟨slice, hslice, rfl⟩ := Option.map_eq_some_iff.mp h
    rcases (Option.orElse_eq_some _ _ _).mp named with named | ⟨-, named⟩
    · exact only.slice slice hslice column named
    rcases (Option.orElse_eq_some _ _ _).mp named with named | ⟨-, named⟩
    · exact only.order column named
    rcases (Option.orElse_eq_some _ _ _).mp named with named | ⟨-, named⟩
    · exact hmetric named
    · exact hfree column (List.mem_of_head? named)

theorem refreshClarification (only : NamesOnly columns intent) :
    NamesOnly columns (refreshClarification intent) :=
  { only with }

end NamesOnly

/-- Every column that the reading of a question names is one of the schema. -/
theorem namesOnly_read (question : String) (schema : Schema) (threshold : Float) :
    NamesOnly schema.columnNames (read question schema threshold) := by
  have hreferences : ∀ reference ∈ Matching.references question schema.columnNames threshold,
      reference.column ∈ schema.columnNames :=
    fun _ => Matching.mem_of_references
  unfold read
  dsimp only
  generalize limitAndOrder _ = limits
  generalize hasked : windowAndRest _ = asked
  obtain ⟨limit, limitOrder⟩ := limits
  obtain ⟨window, text⟩ := asked
  apply NamesOnly.refreshClarification
  apply NamesOnly.assignRoles
  apply NamesOnly.groupRankedAggregates
  refine NamesOnly.withConditions (NamesOnly.withGroups ?_ fun _ => mem_of_mentions)
    (fun _ => mem_of_comparisons) fun _ h _ named => mem_of_sentimentFilter? h named
  -- the roles that the words of the question fill by themselves
  constructor
  case references =>
    intro reference h
    dsimp only at h
    exact hreferences reference h
  case groups =>
    intro column h
    cases h
  case time =>
    intro column h
    dsimp only [Intent.timeColumn] at h
    obtain ⟨analysis, hanalysis, named⟩ := Option.bind_eq_some_iff.mp h
    exact mem_of_time? hreferences hanalysis named
  case conditions =>
    intro condition h
    cases h
  case sentiment =>
    intro filter h
    cases h
  case aggregations =>
    intro aggregation h column named
    dsimp only at h
    obtain ⟨hfrom, hunpaired⟩ := exists_of_mem_aggregations h
    rcases named with named | named
    · obtain ⟨reference, hreference, rfl⟩ := hfrom column named
      exact hreferences reference hreference
    · rw [hunpaired] at named
      cases named
  case window =>
    intro request h column named
    dsimp only at h
    rw [h] at hasked
    rw [column_windowAndRest hasked] at named
    cases named
  case slice =>
    intro slice h column named
    dsimp only at h
    rw [column_slice? h] at named
    cases named
  case order =>
    intro column h
    dsimp only at h
    exact mem_of_sortColumn? h

end Question

/-- The columns of a schema of rows are the columns of the rows. -/
theorem Schema.mem_columnNames_ofRows {name : String} {rows : Dataset} {column : String} :
    column ∈ (Schema.ofRows name rows).columnNames ↔ ∃ row ∈ rows, column ∈ row.columns := by
  simp [Schema.columnNames, Schema.allColumns, Schema.ofRows, Schema.singleTable]

end TableTalk
