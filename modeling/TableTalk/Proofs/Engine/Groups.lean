import Mathlib
import TableTalk.Proofs.Engine.Metrics
import TableTalk.Proofs.Engine.Steps
import TableTalk.Proofs.Grouping
import TableTalk.Proofs.Rows

/-!
# Figures of groups

Grouping rows and calculating figures for every group gives what filtering the
rows by each key and calculating the figures of the filtered rows gives. The
reference knows no groups: it has the keys that occur, in their order, and the
rows of each.
-/

namespace TableTalk.Engine

/-- What the rows of a group have in common: the interval of their date and the displays of their
cells. -/
def keyTuple (period : Option Period) (columns : List String) (row : Row) : List String :=
  (period.map fun (column, interval) => interval.keyOf (row.value column)).toList ++
    columns.map fun column => (row.value column).display

theorem groupKey_eq_keyTuple (period : Option Period) (columns : List String) :
    groupKey period columns = keyTuple period columns := by
  funext row
  rw [groupKey, groupCells, keyTuple, List.map_append, List.map_map]
  congr 1
  cases period with
  | none => rfl
  | some period => rfl

/-- The rows of a key. -/
def rowsOf (key : Row → List String) (rows : Dataset) (k : List String) : Dataset :=
  rows.filter fun row => key row = k

/-- The column of dates and the interval that a time analysis asks for: a column that is there, or
the one that the data suggests. -/
def DatedBy (rows : Dataset) (time : Option TimeAnalysis) (period : Option Period) : Prop :=
  match time with
  | none => period = none
  | some t =>
    ∃ column, period = some (column, t.interval) ∧
      ((t.column = some column ∧ ∀ first ∈ rows.head?, column ∈ first.columns) ∨
        (t.column = none ∧ dateColumn? rows = some column))

theorem settlePeriod_of_datedBy {rows : Dataset} {time : Option TimeAnalysis}
    {period : Option Period} (state : State) (dated : DatedBy rows time period) :
    settlePeriod state rows time = .ok period := by
  cases time with
  | none => rw [settlePeriod, dated]
  | some t =>
    obtain ⟨column, rfl, ⟨hnamed, hthere⟩ | ⟨hunnamed, hsuggested⟩⟩ := dated
    · rw [settlePeriod, hnamed, resolve_named hthere]
      rfl
    · have hne : rows.isEmpty = false := by
        cases rows with
        | nil => cases hsuggested
        | cons first rest => rfl
      simp only [settlePeriod, hunnamed, State.resolve, hne, hsuggested]
      rfl

/-- Groups that split rows by a key: they come in the order of their keys, every key that occurs
has one, and each of them has all rows of its key in their order. -/
structure SplitsBy (key : Row → List String) (rows : Dataset) (keys : List (List String))
    (groups : List RowGroup) : Prop where
  ascending : keys.Pairwise (· < ·)
  occurring : ∀ k, k ∈ keys ↔ ∃ row ∈ rows, key row = k
  rowsByKey : groups.map RowGroup.rows = keys.map (rowsOf key rows)
  filled : ∀ group ∈ groups, group.rows ≠ []
  complete : (groups.flatMap RowGroup.rows).Perm rows
  once : ∀ row ∈ rows, groups.countP (fun group => row ∈ group.rows) = 1

/-- A row is in one group only, since its key is among the keys once. -/
theorem countP_of_rowsByKey {key : Row → List String} {rows : Dataset} {keys : List (List String)}
    {groups : List RowGroup} (ascending : keys.Pairwise (· < ·))
    (rowsByKey : groups.map RowGroup.rows = keys.map (rowsOf key rows))
    {row : Row} (hrow : row ∈ rows) (hkey : key row ∈ keys) :
    groups.countP (fun group => row ∈ group.rows) = 1 := by
  have hnodup : keys.Nodup := by
    refine ascending.imp ?_
    intro a b hlt he
    rw [he] at hlt
    exact irrefl b hlt
  have hmem : (fun shown : Dataset => decide (row ∈ shown)) ∘ rowsOf key rows =
      fun k => k == key row := by
    funext k
    rw [Function.comp_apply, Bool.eq_iff_iff, decide_eq_true_iff, rowsOf, List.mem_filter,
      decide_eq_true_iff, beq_iff_eq]
    exact ⟨fun h => h.2.symm, fun h => ⟨hrow, h.symm⟩⟩
  calc groups.countP (fun group => row ∈ group.rows)
      = (groups.map RowGroup.rows).countP (fun shown => row ∈ shown) := by
        rw [List.countP_map]
        rfl
    _ = keys.countP (fun k => k == key row) := by rw [rowsByKey, List.countP_map, hmem]
    _ = 1 := List.nodup_iff_count_eq_one.mp hnodup _ hkey

theorem splitsBy_groupBy (period : Option Period) (columns : List String) (rows : Dataset) :
    let found := Grouping.groupBy (groupKey period columns) rows
    SplitsBy (keyTuple period columns) rows (found.map Grouping.Group.key)
      (found.map (rowGroup period columns)) := by
  intro found
  have hrows : (found.map (rowGroup period columns)).map RowGroup.rows =
      found.map Grouping.Group.entries := by
    rw [List.map_map]
    rfl
  have hascending : (found.map Grouping.Group.key).Pairwise (· < ·) :=
    List.pairwise_map.mpr (Grouping.ascending_groupBy _ _)
  have hoccurring (k : List String) :
      k ∈ found.map Grouping.Group.key ↔ ∃ row ∈ rows, keyTuple period columns row = k := by
    rw [← groupKey_eq_keyTuple]
    exact Grouping.mem_keys_groupBy
  have hbyKey : (found.map (rowGroup period columns)).map RowGroup.rows =
      (found.map Grouping.Group.key).map (rowsOf (keyTuple period columns) rows) := by
    rw [hrows, ← groupKey_eq_keyTuple]
    exact Grouping.map_entries_groupBy _ _
  refine ⟨hascending, hoccurring, hbyKey, ?_, ?_, ?_⟩
  · intro group hgroup
    obtain ⟨entries, hentries, rfl⟩ := List.mem_map.mp hgroup
    exact Grouping.ne_nil_of_mem_groupBy entries hentries
  · rw [List.flatMap_map]
    exact Grouping.flatMap_groupBy_perm _ _
  · intro row hrow
    exact countP_of_rowsByKey hascending hbyKey hrow ((hoccurring _).mpr ⟨row, hrow, rfl⟩)

section Figures

variable {state : State} {sample rows : Dataset} {aggregation : Aggregation} {metric : Metric}

theorem map_of_mapM_eq_ok {α β γ : Type} {f : α → Except Fault β} {read : α → γ} {kept : β → γ}
    (keeps : ∀ a b, f a = .ok b → kept b = read a) {as : List α} {bs : List β}
    (h : as.mapM f = .ok bs) : bs.map kept = as.map read := by
  induction as generalizing bs with
  | nil =>
    rw [List.mapM_nil] at h
    obtain rfl := ok_eq_ok.mp h
    rfl
  | cons a as ih =>
    rw [List.mapM_cons] at h
    obtain ⟨first, hfirst, h⟩ := bind_eq_ok.mp h
    obtain ⟨rest, hrest, h⟩ := bind_eq_ok.mp h
    obtain rfl := ok_eq_ok.mp h
    rw [List.map_cons, List.map_cons, keeps a first hfirst, ih hrest]

theorem exists_mapM_eq_ok {α β : Type} {f : α → Except Fault β} {as : List α}
    (h : ∀ a ∈ as, ∃ b, f a = .ok b) : ∃ bs, as.mapM f = .ok bs := by
  induction as with
  | nil => exact ⟨[], rfl⟩
  | cons a as ih =>
    obtain ⟨b, hb⟩ := h a (by simp)
    obtain ⟨bs, hbs⟩ := ih fun a ha => h a (by simp [ha])
    refine ⟨b :: bs, ?_⟩
    rw [List.mapM_cons, hb, hbs]
    rfl

/-- An aggregation that needs no data to find its columns: it counts, or it names columns that all
rows have. -/
def FindsColumns (rows : Dataset) (a : Aggregation) : Prop :=
  a.function = .count ∨
    (∃ column, a.column = some column ∧ ∀ row ∈ rows, column ∈ row.columns) ∧
    (a.function.isPairwise = true →
      ∃ other, a.pairedWith = some other ∧ ∀ row ∈ rows, other ∈ row.columns)

theorem exists_resolveAggregation (state : State) (finds : FindsColumns rows aggregation)
    (hsample : sample ⊆ rows) :
    ∃ metric, resolveAggregation state sample aggregation = .ok metric := by
  have hnamed {column : String} (h : ∀ row ∈ rows, column ∈ row.columns)
      (suggest : Dataset → Option String) (missing : Fault) :
      state.resolve sample (some column) .aggregate suggest missing = .ok (some column) := by
    apply resolve_named
    intro first hfirst
    exact h first (hsample (List.mem_of_mem_head? hfirst))
  by_cases hcount : aggregation.function = .count
  · exact ⟨_, if_pos hcount⟩
  obtain ⟨⟨column, hcolumn, hthere⟩, hpair⟩ := finds.resolve_left hcount
  cases hpairwise : aggregation.function.isPairwise with
  | true =>
    obtain ⟨other, hother, hotherThere⟩ := hpair hpairwise
    simp only [resolveAggregation, if_neg hcount, hpairwise, ↓reduceIte, resolvePair, pairColumn,
      hcolumn, hother, hnamed hthere, hnamed hotherThere]
    exact ⟨_, rfl⟩
  | false =>
    simp only [resolveAggregation, if_neg hcount, hpairwise, Bool.false_eq_true, ↓reduceIte,
      hcolumn, hnamed hthere]
    exact ⟨_, rfl⟩

/-- A row with the figures of some rows: under every name of a metric is the figure of the last
metric of that name. -/
def Shows (metrics : List Metric) (rows : Dataset) (row : Row) : Prop :=
  ∀ before metric after, metrics = before ++ metric :: after →
    metric.name ∉ after.map Metric.name → row.get? metric.name = some (metric.compute rows)

theorem shows_summarize (metrics : List Metric) (key : Row) (rows : Dataset) :
    Shows metrics rows (summarize metrics key rows) := by
  intro before metric after hsplit hlast
  rw [summarize, hsplit, List.map_append, List.map_cons]
  apply Row.get?_insertAll_of_last
  rw [List.map_map]
  exact hlast

theorem exists_last_of_name {metrics : List Metric} {name : String}
    (h : name ∈ metrics.map Metric.name) :
    ∃ before metric after, metrics = before ++ metric :: after ∧ metric.name = name ∧
      name ∉ after.map Metric.name := by
  induction metrics with
  | nil => cases h
  | cons first metrics ih =>
    by_cases hrest : name ∈ metrics.map Metric.name
    · obtain ⟨before, metric, after, rfl, hname, hlast⟩ := ih hrest
      exact ⟨first :: before, metric, after, rfl, hname, hlast⟩
    · rw [List.map_cons, List.mem_cons] at h
      exact ⟨[], first, metrics, rfl, (h.resolve_right hrest).symm, hrest⟩

/-- Where there is counting among the metrics, the counts stand under their name, whatever else is
calculated. -/
theorem get?_countColumn {metrics : List Metric} {row : Row}
    (named : ∀ metric ∈ metrics, metric.name = WorkingSet.countColumn ↔ metric.function = .count)
    (counts : AggregateFunction.count ∈ metrics.map Metric.function)
    (shows : Shows metrics rows row) :
    row.get? WorkingSet.countColumn = some (.integer (Int64.ofNat rows.length)) := by
  have hnamed : WorkingSet.countColumn ∈ metrics.map Metric.name := by
    obtain ⟨metric, hmetric, hcount⟩ := List.mem_map.mp counts
    exact List.mem_map.mpr ⟨metric, hmetric, (named metric hmetric).mpr hcount⟩
  obtain ⟨before, metric, after, hsplit, hname, hlast⟩ := exists_last_of_name hnamed
  have hmem : metric ∈ metrics := hsplit ▸ by simp
  have hshown := shows before metric after hsplit (hname ▸ hlast)
  rw [hname, Metric.compute, if_pos ((named metric hmem).mp hname)] at hshown
  exact hshown

end Figures

theorem sum_ofNat (counts : List Nat) :
    (counts.map Int64.ofNat).sum = Int64.ofNat counts.sum := by
  induction counts with
  | nil => rfl
  | cons count counts ih => rw [List.map_cons, List.sum_cons, ih, List.sum_cons, Int64.ofNat_add]

theorem sum_toInt_ofNat {counts : List Nat} (fits : counts.sum < 2 ^ 63) :
    ((counts.map Int64.ofNat).map Int64.toInt).sum = counts.sum := by
  induction counts with
  | nil => rfl
  | cons count counts ih =>
    rw [List.sum_cons] at fits
    rw [List.map_cons, List.map_cons, List.sum_cons, ih (by omega),
      Int64.toInt_ofNat_of_lt (by omega), List.sum_cons, Int.natCast_add]

/-- Rows of figures, one for each part of some rows, whose counts add up to the number of rows. -/
def CountsAddUp (total : Nat) (out : Dataset) : Prop :=
  ∃ counts : List Int64,
    (out.map fun row => row.get? WorkingSet.countColumn) =
      counts.map (fun count => some (Value.integer count)) ∧
    counts.sum = Int64.ofNat total ∧
    (total < 2 ^ 63 → (counts.map Int64.toInt).sum = total)

theorem countsAddUp_of_forall₂ {parts : List Dataset} {out : Dataset}
    (h : List.Forall₂ (fun part row => row.get? WorkingSet.countColumn =
      some (.integer (Int64.ofNat part.length))) parts out) :
    CountsAddUp (parts.map List.length).sum out := by
  refine ⟨(parts.map List.length).map Int64.ofNat, ?_, sum_ofNat _, sum_toInt_ofNat⟩
  induction h with
  | nil => rfl
  | cons hcell _ ih =>
    rw [List.map_cons, hcell, ih]
    rfl

/-- Grouping and aggregating is aggregating the rows of each key: groups split the rows by the
bucket of their date and the displays of their cells, and the figures of a group are those of the
rows that filtering gives for its key. -/
theorem figures_of_groups_by_filtering (state : State) (rows : Dataset) (columns : List String)
    (time : Option TimeAnalysis) (period : Option Period)
    (shown : state.working = .rows rows)
    (there : ∀ first ∈ rows.head?, ∀ column ∈ columns, column ∈ first.columns)
    (dated : DatedBy rows time period) :
    let key := keyTuple period columns
    ∃ keys groups,
      let grouped := { state with working := .groups groups }
      let sample := (keys.flatMap (rowsOf key rows)).take sampleSize
      group state columns time = .ok grouped ∧
      SplitsBy key rows keys groups ∧
      ∀ aggregations,
        ((∀ a ∈ aggregations, FindsColumns rows a) →
          ∃ metrics, aggregations.mapM (resolveAggregation grouped sample) = .ok metrics) ∧
        (∀ fault, aggregations.mapM (resolveAggregation grouped sample) = .error fault →
          aggregate grouped aggregations = .error fault) ∧
        ∀ metrics, aggregations.mapM (resolveAggregation grouped sample) = .ok metrics →
          ∃ out,
            aggregate grouped aggregations =
              .ok { grouped with working := .rows out, metrics := metrics.map Metric.name } ∧
            metrics.map Metric.function = aggregations.map Aggregation.function ∧
            List.Forall₂ (Shows metrics) (keys.map (rowsOf key rows)) out ∧
            (AggregateFunction.count ∈ aggregations.map Aggregation.function →
              CountsAddUp rows.length out) := by
  intro key
  let found := Grouping.groupBy (groupKey period columns) rows
  let keys := found.map Grouping.Group.key
  let groups := found.map (rowGroup period columns)
  have hsplit : SplitsBy key rows keys groups := splitsBy_groupBy period columns rows
  refine ⟨keys, groups, ?_, hsplit, ?_⟩
  · rw [group_eq_ok, shown]
    exact ⟨requireColumns_of_head there, period, settlePeriod_of_datedBy state dated, rfl⟩
  intro aggregations
  set grouped : State := { state with working := .groups groups } with hgrouped
  have hsample : grouped.working.sample = (keys.flatMap (rowsOf key rows)).take sampleSize := by
    rw [hgrouped, WorkingSet.sample, List.flatMap_def, hsplit.rowsByKey, List.flatMap_def]
  rw [← hsample]
  have hsub : grouped.working.sample ⊆ rows := by
    intro row hrow
    exact hsplit.complete.subset (List.mem_of_mem_take hrow)
  refine ⟨?_, ?_, ?_⟩
  · intro finds
    exact exists_mapM_eq_ok fun a ha => exists_resolveAggregation grouped (finds a ha) hsub
  · intro fault hfault
    rw [aggregate, hfault]
    rfl
  · intro metrics hmetrics
    have hfunctions : metrics.map Metric.function = aggregations.map Aggregation.function :=
      map_of_mapM_eq_ok (fun a metric h => (resolveAggregation_names h).1) hmetrics
    have hnamed : ∀ metric ∈ metrics,
        metric.name = WorkingSet.countColumn ↔ metric.function = .count := by
      intro metric hmetric
      obtain ⟨a, -, h⟩ := exists_of_mapM_eq_ok hmetrics metric hmetric
      exact function_eq_count_of_name h
    have hshows : List.Forall₂ (Shows metrics) (keys.map (rowsOf key rows))
        (summaries metrics grouped.working) := by
      rw [← hsplit.rowsByKey, summaries, List.forall₂_map_left_iff, List.forall₂_map_right_iff,
        List.forall₂_same]
      intro group _
      exact shows_summarize metrics group.key group.rows
    refine ⟨summaries metrics grouped.working, aggregate_eq_ok.mpr ⟨metrics, hmetrics, rfl⟩,
      hfunctions, hshows, ?_⟩
    intro counts
    rw [← hfunctions] at counts
    have htotal : ((keys.map (rowsOf key rows)).map List.length).sum = rows.length := by
      rw [← hsplit.complete.length_eq, List.length_flatMap, ← hsplit.rowsByKey, List.map_map]
      rfl
    rw [← htotal]
    exact countsAddUp_of_forall₂ (hshows.imp fun part row => get?_countColumn hnamed counts)

/-- Sales of two months in two cities, with two rows in one of the groups. -/
theorem figures_of_monthly_sales :
    let rows : Dataset :=
      [.ofCells [("day", .text "2024-02-05"), ("city", .text "Oslo"), ("sales", .integer 3)],
        .ofCells [("day", .text "2024-01-07"), ("city", .text "Rome"), ("sales", .integer 4)],
        .ofCells [("day", .text "2024-02-09"), ("city", .text "Oslo"), ("sales", .integer 6)]]
    let state : State := { working := .rows rows }
    let key := keyTuple (some ("day", .month)) ["city"]
    rows.map key = [["2024-02", "Oslo"], ["2024-01", "Rome"], ["2024-02", "Oslo"]] ∧
    ∃ keys groups,
      let grouped := { state with working := .groups groups }
      group state ["city"] (some { interval := .month, column := some "day" }) = .ok grouped ∧
      SplitsBy key rows keys groups ∧
      ∃ metrics out,
        aggregate grouped [{ function := .avg, column := some "sales" }, { function := .count }] =
          .ok { grouped with working := .rows out, metrics := metrics.map Metric.name } ∧
        List.Forall₂ (Shows metrics) (keys.map (rowsOf key rows)) out ∧ CountsAddUp 3 out := by
  intro rows state key
  have hcolumns : ∀ row ∈ rows, row.columns = ["day", "city", "sales"] := by decide +kernel
  have hthere {column : String} (h : column ∈ ["day", "city", "sales"]) :
      ∀ row ∈ rows, column ∈ row.columns :=
    fun row hrow => hcolumns row hrow ▸ h
  refine ⟨by decide +kernel, ?_⟩
  obtain ⟨keys, groups, hgroup, hsplit, hfigures⟩ := figures_of_groups_by_filtering state rows
    ["city"] (some { interval := .month, column := some "day" }) (some ("day", .month)) rfl
    (by
      intro first hfirst column hcolumn
      rw [List.mem_singleton.mp hcolumn]
      exact hthere (by decide) first (List.mem_of_mem_head? hfirst))
    ⟨"day", rfl, Or.inl ⟨rfl, fun first hfirst =>
      hthere (by decide) first (List.mem_of_mem_head? hfirst)⟩⟩
  refine ⟨keys, groups, hgroup, hsplit, ?_⟩
  obtain ⟨hresolved, -, haggregated⟩ :=
    hfigures [{ function := .avg, column := some "sales" }, { function := .count }]
  obtain ⟨metrics, hmetrics⟩ := hresolved (by
    intro a ha
    rcases List.mem_cons.mp ha with rfl | ha
    · exact Or.inr ⟨⟨"sales", rfl, hthere (by decide)⟩, by decide⟩
    · exact Or.inl (congrArg Aggregation.function (List.mem_singleton.mp ha)))
  obtain ⟨out, hout, -, hshows, hcounts⟩ := haggregated metrics hmetrics
  exact ⟨metrics, out, hout, hshows, hcounts (by decide)⟩

end TableTalk.Engine
