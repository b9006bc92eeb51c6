import TableTalk.Proofs.Hearing
import TableTalk.Proofs.Matching.References

/-!
# Words of analysis as names of columns

Every column that a question refers to, groups by, orders by or compares with a number
is there because of a word of the question. A word of analysis that refers to a column
has the normal form of the column. The phrases for grouping and sorting and the
comparisons match any word that stands at their place, so a word of analysis at such a
place may stand for a column of another name, and does so whenever it is matched and
no column has its own name.
-/

namespace TableTalk.Question

open Matching (normalForm queryVocabulary bestMatch)

/-- A role that a word of a question can give to a column by itself. -/
inductive Role
  | reference
  | group
  | order
  | filter

/-- The columns of an intent in a role. -/
def Role.columns (intent : Intent) : Role → List String
  | reference => intent.columnNames
  | group => intent.groupBy
  | order => intent.orderColumn.toList
  | filter => intent.filters.map Condition.column

variable {question scan word column : String} {columns : List String} {schema : Schema}
  {threshold : Float} {isRanking : Bool}

section Places

/-- The word after a phrase for sorting that is taken, and its column. -/
def sortSource? (columns : List String) (threshold : Float) (scan : String) :
    Option (String × String) :=
  (Text.findAll sortPattern scan).findSome? fun found =>
    (columnOf columns threshold found.value).map fun column => (found.value, column)

/-- The words after phrases for grouping that are taken, and what they mention. -/
def mentionSources (columns : List String) (threshold : Float) (scan : String) :
    List (String × Mention) :=
  (Text.findAll groupPattern scan).filterMap fun found =>
    (mention? columns threshold found).map fun mention => (found.value.2, mention)

/-- The condition that a comparison states. -/
def comparison? (columns : List String) (threshold : Float) (found : Comparison) :
    Option Condition := do
  let operator ← Operator.ofPhrase? found.phrase
  let column ← columnOf columns threshold found.name
  let value ← literal? found.number
  pure ⟨column, operator, value⟩

/-- The words in front of comparisons that are taken, and the conditions. -/
def comparisonSources (columns : List String) (threshold : Float) (scan : String) :
    List (String × Condition) :=
  (Text.findAll comparisonPattern scan).filterMap fun found =>
    (comparison? columns threshold found.value).map fun condition =>
      (found.value.name, condition)

theorem map_snd_sortSource? (columns : List String) (threshold : Float) (scan : String) :
    (sortSource? columns threshold scan).map Prod.snd = sortColumn? columns threshold scan := by
  simp only [sortSource?, sortColumn?, List.map_findSome?, Function.comp_def, Option.map_map,
    Option.map_id']

theorem map_snd_mentionSources (columns : List String) (threshold : Float) (scan : String) :
    (mentionSources columns threshold scan).map Prod.snd = mentions columns threshold scan := by
  simp only [mentionSources, mentions, List.map_filterMap, Function.comp_def, Option.map_map,
    Option.map_id']

theorem map_snd_comparisonSources (columns : List String) (threshold : Float) (scan : String) :
    (comparisonSources columns threshold scan).map Prod.snd =
      comparisons columns threshold scan := by
  simp only [comparisonSources, comparisons, List.map_filterMap, Function.comp_def, Option.map_map,
    Option.map_id']
  rfl

end Places

section Sources

/-- The words of a question that give a role to columns, each with its column. -/
def sources (question : String) (schema : Schema) (threshold : Float) :
    Role → List (String × String)
  | .reference => (read question schema threshold).references.map fun r => (r.term, r.column)
  | .group =>
    let reading := read question schema threshold
    let asked := (mentionSources schema.columnNames threshold (scanned question)).filter
      fun entry => !(entry.2.isPlain && reading.isRanking)
    -- a question that asks for no groups may have its ranked figures grouped
    if asked.isEmpty then
      (reading.references.filter fun r =>
        r.kind == .exact && reading.groupBy.contains r.column).map fun r => (r.term, r.column)
    else asked.map fun entry => (entry.1, entry.2.column)
  | .order =>
    let isRanking := (read question schema threshold).isRanking
    (sortSource? schema.columnNames threshold (scanned question) <|>
      ((mentionSources schema.columnNames threshold (scanned question)).find?
        fun entry => entry.2.isPlain && isRanking).map
          fun entry => (entry.1, entry.2.column)).toList
  | .filter =>
    (comparisonSources schema.columnNames threshold (scanned question)).map
      fun entry => (entry.1, entry.2.column)

theorem map_snd_sources_order (question : String) (schema : Schema) (threshold : Float) :
    (sources question schema threshold .order).map Prod.snd =
      Role.columns (read question schema threshold) .order := by
  unfold sources Role.columns
  rw [orderColumn_read, orderColumn?, ← map_snd_sortSource?, ← map_snd_mentionSources,
    List.find?_map, Option.map_map]
  cases sortSource? schema.columnNames threshold (scanned question) with
  | some entry => rfl
  | none =>
    dsimp only [Function.comp_def]
    cases (mentionSources schema.columnNames threshold (scanned question)).find? _ <;> rfl

theorem map_snd_sources_filter (question : String) (schema : Schema) (threshold : Float) :
    (sources question schema threshold .filter).map Prod.snd =
      Role.columns (read question schema threshold) .filter := by
  unfold sources Role.columns
  rw [filters_read, ← map_snd_comparisonSources, List.map_map, List.map_map]
  rfl

theorem groups_eq_eraseDups (columns : List String) (threshold : Float) (isRanking : Bool)
    (scan : String) :
    groups columns threshold isRanking scan =
      (((mentionSources columns threshold scan).filter fun entry =>
        !(entry.2.isPlain && isRanking)).map fun entry => entry.2.column).eraseDups := by
  rw [groups, ← map_snd_mentionSources, List.filter_map, List.map_map]
  rfl

theorem mem_sources_group_iff (question : String) (schema : Schema) (threshold : Float) :
    column ∈ (sources question schema threshold .group).map Prod.snd ↔
      column ∈ (read question schema threshold).groupBy := by
  have hgroups := groupBy_read question schema threshold
  unfold sources
  dsimp only at hgroups ⊢
  generalize read question schema threshold = reading at hgroups ⊢
  rw [groups_eq_eraseDups, Listing.eraseDups_eq_nil_iff, List.map_eq_nil_iff] at hgroups
  generalize (mentionSources schema.columnNames threshold (scanned question)).filter
    (fun entry => !(entry.2.isPlain && reading.isRanking)) = asked at hgroups ⊢
  split
  case isTrue hnone =>
    have hexact : ∀ column ∈ reading.groupBy,
        ∃ r ∈ reading.references, r.kind = .exact ∧ r.column = column := by
      rcases hgroups with hasked | ⟨-, hexact⟩
      · rw [hasked, List.isEmpty_iff.mp hnone]
        exact fun _ h => absurd h List.not_mem_nil
      · exact hexact
    constructor
    · intro h
      obtain ⟨entry, hentry, rfl⟩ := List.mem_map.mp h
      obtain ⟨r, hr, rfl⟩ := List.mem_map.mp hentry
      have hr := (List.mem_filter.mp hr).2
      rw [Bool.and_eq_true, List.contains_iff_mem] at hr
      exact hr.2
    · intro h
      obtain ⟨r, hr, hkind, rfl⟩ := hexact column h
      refine List.mem_map.mpr ⟨(r.term, r.column), List.mem_map.mpr ⟨r, ?_, rfl⟩, rfl⟩
      exact List.mem_filter.mpr ⟨hr, by simp [hkind, h]⟩
  case isFalse hsome =>
    have hasked := hgroups.resolve_right fun h => hsome (List.isEmpty_iff.mpr h.1)
    rw [hasked, List.mem_eraseDups, List.map_map]
    rfl

/-- The columns in each role are those that words of the question give it to. -/
theorem mem_columns_iff (question : String) (schema : Schema) (threshold : Float) (role : Role)
    (column : String) :
    column ∈ role.columns (read question schema threshold) ↔
      ∃ word, (word, column) ∈ sources question schema threshold role := by
  have hmap : column ∈ (sources question schema threshold role).map Prod.snd ↔
      ∃ word, (word, column) ∈ sources question schema threshold role := by simp
  rw [← hmap]
  cases role with
  | reference =>
    simp only [Role.columns, sources, Intent.columnNames, List.map_map]
    rfl
  | group => exact (mem_sources_group_iff question schema threshold).symm
  | order => rw [map_snd_sources_order]
  | filter => rw [map_snd_sources_filter]

theorem columnOf_of_mem_sortSource? (h : sortSource? columns threshold scan = some (word, column)) :
    columnOf columns threshold word = some column := by
  obtain ⟨found, -, h⟩ := List.exists_of_findSome?_eq_some h
  obtain ⟨_, hcolumn, hentry⟩ := Option.map_eq_some_iff.mp h
  obtain ⟨rfl, rfl⟩ := Prod.mk.inj hentry
  exact hcolumn

theorem columnOf_of_mem_mentionSources {mention : Mention}
    (h : (word, mention) ∈ mentionSources columns threshold scan) :
    columnOf columns threshold word = some mention.column := by
  obtain ⟨found, -, h⟩ := List.mem_filterMap.mp h
  obtain ⟨_, hmention, hentry⟩ := Option.map_eq_some_iff.mp h
  obtain ⟨rfl, rfl⟩ := Prod.mk.inj hentry
  unfold mention? at hmention
  dsimp only at hmention
  split at hmention
  · cases hmention
  · split at hmention
    · cases hmention
    · obtain ⟨column, hcolumn, rfl⟩ := Option.map_eq_some_iff.mp hmention
      exact hcolumn

theorem columnOf_of_mem_comparisonSources {condition : Condition}
    (h : (word, condition) ∈ comparisonSources columns threshold scan) :
    columnOf columns threshold word = some condition.column := by
  obtain ⟨found, -, h⟩ := List.mem_filterMap.mp h
  obtain ⟨_, hcondition, hentry⟩ := Option.map_eq_some_iff.mp h
  obtain ⟨rfl, rfl⟩ := Prod.mk.inj hentry
  simp only [comparison?, Option.bind_eq_bind, Option.bind_eq_some_iff, Option.pure_def,
    Option.some.injEq] at hcondition
  obtain ⟨_, -, column, hcolumn, _, -, rfl⟩ := hcondition
  exact hcolumn

theorem columnOf_of_mem_references {reference : Matching.Reference}
    (h : reference ∈ Matching.references question columns threshold) :
    columnOf columns threshold reference.term = some reference.column ∧
      (reference.term ∈ queryVocabulary →
        normalForm reference.column = normalForm reference.term) := by
  obtain ⟨token, -, htoken⟩ := List.mem_filterMap.mp (Listing.mem_of_mem_distinctBy h)
  obtain ⟨hterm, found, hfound, hcolumn, hkind, hanalysis⟩ :=
    Matching.exists_bestMatch_of_reference? htoken
  rw [hterm, columnOf, hfound, Option.map_some, hcolumn]
  refine ⟨rfl, fun hword => ?_⟩
  rw [← hcolumn, ← (Matching.exact_bestMatch_iff hfound).1, hkind]
  exact hanalysis (List.contains_iff_mem.mpr hword)

/-- A word that gives a role to a column is matched with it. -/
theorem columnOf_of_mem_sources {role : Role}
    (h : (word, column) ∈ sources question schema threshold role) :
    columnOf schema.columnNames threshold word = some column := by
  have hreferences {r : Matching.Reference}
      (h : r ∈ (read question schema threshold).references) :
      columnOf schema.columnNames threshold r.term = some r.column := by
    rw [references_read] at h
    exact (columnOf_of_mem_references h).1
  cases role with
  | reference =>
    obtain ⟨r, hr, hentry⟩ := List.mem_map.mp h
    obtain ⟨rfl, rfl⟩ := Prod.mk.inj hentry
    exact hreferences hr
  | group =>
    unfold sources at h
    dsimp only at h
    split at h
    · obtain ⟨r, hr, hentry⟩ := List.mem_map.mp h
      obtain ⟨rfl, rfl⟩ := Prod.mk.inj hentry
      exact hreferences (List.mem_filter.mp hr).1
    · obtain ⟨entry, hmem, hentry⟩ := List.mem_map.mp h
      obtain ⟨rfl, rfl⟩ := Prod.mk.inj hentry
      exact columnOf_of_mem_mentionSources (List.mem_filter.mp hmem).1
  | order =>
    unfold sources at h
    dsimp only at h
    rw [Option.mem_toList, Option.orElse_eq_some] at h
    rcases h with h | ⟨-, h⟩
    · exact columnOf_of_mem_sortSource? h
    · obtain ⟨entry, hmem, hentry⟩ := Option.map_eq_some_iff.mp h
      obtain ⟨rfl, rfl⟩ := Prod.mk.inj hentry
      exact columnOf_of_mem_mentionSources (List.mem_of_find?_eq_some hmem)
  | filter =>
    obtain ⟨entry, hmem, hentry⟩ := List.mem_map.mp h
    obtain ⟨rfl, rfl⟩ := Prod.mk.inj hentry
    exact columnOf_of_mem_comparisonSources hmem

end Sources

/-- A question puts columns into its four roles through words, and through no other means. A word
that does so stands for a column of its own normal form if and only if the schema has such a column,
whatever the column is that is found. A word of analysis that refers to a column has its normal
form in any case, but not so a word behind a phrase for grouping or sorting, or in front of a
comparison. -/
theorem named_exactly_iff (question : String) (schema : Schema) (threshold : Float) :
    (∀ role column, column ∈ Role.columns (read question schema threshold) role ↔
      ∃ word, (word, column) ∈ sources question schema threshold role) ∧
    ∀ role word column, (word, column) ∈ sources question schema threshold role →
      word ∈ queryVocabulary →
      (role = .reference → normalForm column = normalForm word) ∧
        (normalForm column = normalForm word ↔
          ∃ other ∈ schema.columnNames, normalForm other = normalForm word) := by
  refine ⟨mem_columns_iff question schema threshold, fun role word column h hword => ⟨?_, ?_⟩⟩
  · rintro rfl
    obtain ⟨r, hr, hentry⟩ := List.mem_map.mp h
    obtain ⟨rfl, rfl⟩ := Prod.mk.inj hentry
    rw [references_read] at hr
    exact (columnOf_of_mem_references hr).2 hword
  · obtain ⟨found, hfound, rfl⟩ := Option.map_eq_some_iff.mp (columnOf_of_mem_sources h)
    exact (Matching.exact_bestMatch_iff hfound).2

/-- A question is ordered by a column of comments, as "count" is spelled like "comment". -/
theorem count_orders_by_comment :
    let schema : Schema := .singleTable "shop" ["price", "comment"]
    let question := "show prices sorted by count"
    "count" ∈ queryVocabulary ∧
      ("count", "comment") ∈ sources question schema Matching.defaultThreshold .order ∧
      (read question schema Matching.defaultThreshold).orderColumn = some "comment" ∧
      normalForm "comment" ≠ normalForm "count" := by
  decide +kernel

/-- Where there is a column of counts, the question is ordered by it. -/
theorem count_orders_by_counts :
    let schema : Schema := .singleTable "shop" ["comment", "counts"]
    let question := "show comments sorted by count"
    "count" ∈ queryVocabulary ∧
      ("count", "counts") ∈ sources question schema Matching.defaultThreshold .order ∧
      normalForm "counts" = normalForm "count" := by
  intro schema question
  have hword : "count" ∈ queryVocabulary := by decide
  have hsource : ("count", "counts") ∈
      sources question schema Matching.defaultThreshold .order := by decide +kernel
  refine ⟨hword, hsource, ?_⟩
  have hexact :=
    (named_exactly_iff question schema Matching.defaultThreshold).2 .order _ _ hsource hword
  exact hexact.2.mpr ⟨"counts", by decide +kernel, by decide +kernel⟩

end TableTalk.Question
