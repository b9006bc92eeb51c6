import TableTalk.Proofs.Engine.Keys

/-!
# Windows over groups

A window function over groups runs over the rows of each group by themselves, and the
key of the group is then written onto them. The rows are all there once afterwards. A row
has its own cells outside the columns of the key and of the function; in the columns of
the grouping it has the cells of the first row of its group, which are displayed like
its own.
-/

namespace TableTalk.Engine

/-- What is left of a row of a group after a window function with columns of some names. -/
structure KeptInGroup (names : List String) (period : Option Period) (columns : List String)
    (rows : Dataset) (source row : Row) : Prop where
  kept : ∀ column, column ∉ names → column ∉ keyColumns period columns →
    row.get? column = source.get? column
  keyed : ∃ first,
    (rowsOf (keyTuple period columns) rows (keyTuple period columns source)).head? = some first ∧
    ∀ column ∈ columns, row.get? column = some (first.value column) ∧
      (first.value column).display = (source.value column).display
  dated : ∀ dates interval, period = some (dates, interval) → Planning.periodColumn ∉ columns →
    row.get? Planning.periodColumn = some (.text (interval.keyOf (source.value dates)))

theorem forall₂_flatMap {α β γ : Type} {related : α → β → Prop} {f : γ → List α} {g : γ → List β}
    {cs : List γ} (h : ∀ c ∈ cs, List.Forall₂ related (f c) (g c)) :
    List.Forall₂ related (cs.flatMap f) (cs.flatMap g) := by
  rw [List.flatMap_def, List.flatMap_def]
  refine List.rel_flatten ?_
  rw [List.forall₂_map_left_iff, List.forall₂_map_right_iff, List.forall₂_same]
  exact h

section Written

variable {names : List String} {period : Option Period} {columns : List String} {rows : Dataset}
  {k : List String} {source figure : Row} {arranged : Dataset} {apply : Dataset → Dataset}

/-- Writing the key of its group onto a row changes the cells under the columns of the key. -/
theorem keptInGroup_of_extends (hextends : Extends names source figure) {first : Row}
    (hfirst : (rowsOf (keyTuple period columns) rows (keyTuple period columns source)).head? =
      some first) :
    KeptInGroup names period columns rows source
      (figure.insertAll (keyRow period columns first).cells) := by
  have hkey : keyTuple period columns first = keyTuple period columns source :=
    keyTuple_of_mem_rowsOf (List.mem_of_mem_head? hfirst)
  constructor
  · intro column hname hcolumn
    have hnone : (keyRow period columns first).get? column = none := by
      apply Row.get?_of_notMem
      rwa [columns_keyRow]
    rw [Row.get?_insertAll_cells, hnone, Option.none_or, hextends.kept column hname]
  · refine ⟨first, hfirst, fun column hcolumn => ⟨?_, display_eq_of_keyTuple hcolumn hkey⟩⟩
    rw [Row.get?_insertAll_cells, get?_keyRow_of_mem hcolumn, Option.some_or]
  · rintro dates interval rfl hperiod
    rw [Row.get?_insertAll_cells, get?_keyRow_period hperiod, Option.some_or,
      bucket_eq_of_keyTuple hkey]

theorem keptInGroup_partitionRows (occurs : ∃ row ∈ rows, keyTuple period columns row = k)
    (hextends : List.Forall₂ (Extends names) arranged
      (apply (rowsOf (keyTuple period columns) rows k)))
    (hperm : arranged.Perm (rowsOf (keyTuple period columns) rows k)) :
    List.Forall₂ (KeptInGroup names period columns rows) arranged
      (WorkingSet.partitionRows apply (groupOf period columns rows k)) := by
  obtain ⟨first, hfirst, -, hkey⟩ := exists_first_of_key occurs
  have hin : ∀ source ∈ arranged, keyTuple period columns source = k := fun source hsource =>
    keyTuple_of_mem_rowsOf (hperm.subset hsource)
  rw [WorkingSet.partitionRows, hkey, List.forall₂_map_right_iff]
  refine ((List.forall₂_and_left _ _).mpr ⟨hin, hextends⟩).imp fun source figure h => ?_
  exact keptInGroup_of_extends h.2 (h.1 ▸ hfirst)

/-- The figures under columns that are not those of the key stay. -/
theorem figures_partitionRows (occurs : ∃ row ∈ rows, keyTuple period columns row = k)
    (hnames : Planning.periodColumn ∉ names) :
    List.Forall₂
      (fun figure row => ∀ name ∈ names, name ∉ columns → row.get? name = figure.get? name)
      (apply (rowsOf (keyTuple period columns) rows k))
      (WorkingSet.partitionRows apply (groupOf period columns rows k)) := by
  obtain ⟨first, -, -, hkey⟩ := exists_first_of_key occurs
  rw [WorkingSet.partitionRows, hkey, List.forall₂_map_right_iff, rows_groupOf, List.forall₂_same]
  intro figure _ name hname hcolumn
  have hnone : (keyRow period columns first).get? name = none := by
    apply Row.get?_of_notMem
    rw [columns_keyRow, mem_keyColumns]
    rintro (⟨-, rfl⟩ | hmem)
    · exact hnames hname
    · exact hcolumn hmem
  rw [Row.get?_insertAll_cells, hnone, Option.none_or]

end Written

theorem periodColumn_notMem_windowColumns (function : WindowFunction) :
    Planning.periodColumn ∉ windowColumns function := by
  cases function <;> decide

/-- A window step right after grouping keeps all rows, each of them once. Under the columns of the
grouping a row has the cells of the first row of its group, which are displayed like its own, and
under the period column its bucket. Under the columns of the function, as far as rows are not
grouped by them, it has what the function calculates from the rows of its group alone. All its other
cells are its own. -/
theorem window_keeps_rows_of_groups {options : Options} {state grouped next : State}
    {rows : Dataset} {columns : List String} {time : Option TimeAnalysis} {request : WindowRequest}
    {orderBy : Option String} {direction : Direction} (shown : state.working = .rows rows)
    (hgroup : group state columns time = .ok grouped)
    (hwindow : window options grouped request orderBy direction = .ok next) :
    ∃ (period : Option Period) (keys : List (List String)) (column : String)
      (order : Option Series.Order) (out : Dataset),
      let key := keyTuple period columns
      let names := windowColumns request.function
      let sources := keys.flatMap fun k =>
        windowArrangement column order direction (rowsOf key rows k) request.function
      let figures := keys.flatMap fun k =>
        applyWindow options request.function column order direction (rowsOf key rows k)
      settlePeriod state rows time = .ok period ∧
      (∀ k, k ∈ keys ↔ ∃ row ∈ rows, key row = k) ∧
      (rows ≠ [] →
        grouped.resolve grouped.working.partitionSample request.column .window numericColumn?
          (.noNumericColumn .window) = .ok (some column) ∧
        windowOrder grouped grouped.working.partitionSample orderBy direction = .ok order) ∧
      next.working = .rows out ∧
      sources.Perm rows ∧
      List.Forall₂ (Extends names) sources figures ∧
      List.Forall₂ (KeptInGroup names period columns rows) sources out ∧
      List.Forall₂ (fun figure row => ∀ name ∈ names, name ∉ columns →
        row.get? name = figure.get? name) figures out := by
  have hrows : state.working.output = rows := by rw [shown]; rfl
  obtain ⟨period, keys, hperiod, hkeys, hperm, rfl⟩ := exists_keys_of_group hgroup
  rw [hrows] at hperiod hkeys hperm hwindow ⊢
  obtain ⟨found, hfound, hnext⟩ := window_eq_ok.mp hwindow
  cases found with
  | none =>
    -- no column is found only if there are no rows
    have hsample :
        ((keys.map (groupOf period columns rows)).flatMap RowGroup.rows).take sampleSize = [] :=
      rows_eq_nil_of_resolve hfound
    obtain rfl : rows = [] := by
      rw [List.flatMap_map] at hsample
      have hflat := (List.take_eq_nil_iff.mp hsample).resolve_left (by decide)
      exact List.nil_perm.mp (hflat ▸ hperm)
    obtain rfl : keys = [] := by
      refine List.eq_nil_iff_forall_not_mem.mpr fun k hk => ?_
      obtain ⟨row, hrow, -⟩ := (hkeys k).mp hk
      cases hrow
    have hworking : next.working = .rows [] := hnext ▸ rfl
    exact ⟨period, [], "", none, [], hperiod, hkeys, fun hne => absurd rfl hne, hworking,
      List.Perm.refl _, .nil, .nil, .nil⟩
  | some column =>
    obtain ⟨order, horder, rfl⟩ := hnext
    refine ⟨period, keys, column, order, _, hperiod, hkeys, fun _ => ⟨hfound, horder⟩, rfl,
      ?_, ?_, ?_, ?_⟩
    · refine List.Perm.trans (List.Perm.flatMap_left keys fun k _ => ?_) hperm
      exact windowArrangement_perm column order direction _ request.function
    · exact forall₂_flatMap fun k _ =>
        extends_applyWindow column order direction _ options request.function
    · rw [WorkingSet.mapPartitions, List.flatMap_map]
      exact forall₂_flatMap fun k hk => keptInGroup_partitionRows ((hkeys k).mp hk)
        (extends_applyWindow column order direction _ options request.function)
        (windowArrangement_perm column order direction _ request.function)
    · rw [WorkingSet.mapPartitions, List.flatMap_map]
      exact forall₂_flatMap fun k hk => figures_partitionRows ((hkeys k).mp hk)
        (periodColumn_notMem_windowColumns request.function)

/-- Sales of two months, ranked within each city and month. -/
theorem ranked_sales_keep_rows :
    let rome : Row :=
      .ofCells [("day", .text "2024-01-07"), ("city", .text "Rome"), ("sales", .integer 4)]
    let oslo (day : String) (sales : Int64) : Row :=
      .ofCells [("day", .text day), ("city", .text "Oslo"), ("sales", .integer sales)]
    let rows : Dataset := [oslo "2024-02-05" 3, rome, oslo "2024-02-09" 6]
    let state : State := { working := .rows rows }
    let groups : List RowGroup :=
      [⟨.ofCells [("period", .text "2024-01"), ("city", .text "Rome")], [rome]⟩,
        ⟨.ofCells [("period", .text "2024-02"), ("city", .text "Oslo")],
          [oslo "2024-02-05" 3, oslo "2024-02-09" 6]⟩]
    let grouped : State := { working := .groups groups }
    ∃ next out sources,
      group state ["city"] (some { interval := .month, column := some "day" }) = .ok grouped ∧
      window {} grouped { function := .rank, column := some "sales" } none .descending = .ok next ∧
      next.working = .rows out ∧ sources.Perm rows ∧
      List.Forall₂ (KeptInGroup ["rank"] (some ("day", .month)) ["city"] rows) sources out := by
  intro rome oslo rows state groups grouped
  have hgroup : group state ["city"] (some { interval := .month, column := some "day" }) =
      .ok grouped := by
    rw [group_eq_ok]
    exact ⟨rfl, some ("day", .month), rfl, by decide +kernel⟩
  obtain ⟨next, hwindow⟩ : ∃ next, window {} grouped
      { function := .rank, column := some "sales" } none .descending = .ok next :=
    ⟨_, window_eq_ok.mpr ⟨some "sales", rfl, none, rfl, rfl⟩⟩
  obtain ⟨period, keys, column, order, out, hperiod, -, -, hout, hperm, -, hkept, -⟩ :=
    window_keeps_rows_of_groups rfl hgroup hwindow
  obtain rfl : period = some ("day", .month) := (Except.ok.inj hperiod).symm
  exact ⟨next, out, _, hgroup, hwindow, hout, hperm, hkept⟩

/-- Of two sizes that are displayed alike only the first one is left. -/
theorem window_replaces_tiny_size :
    let small : Row := .ofCells [("size", .float 0.00001), ("sold", .integer 1)]
    let large : Row := .ofCells [("size", .float 0.00002), ("sold", .integer 2)]
    let state : State := { working := .rows [small, large] }
    let tiny : RowGroup := ⟨.ofCells [("size", .float 0.00001)], [small, large]⟩
    let grouped : State := { working := .groups [tiny] }
    let ranked : Dataset :=
      [.ofCells [("size", .float 0.00001), ("sold", .integer 2), ("rank", .integer 1)],
        .ofCells [("size", .float 0.00001), ("sold", .integer 1), ("rank", .integer 2)]]
    group state ["size"] none = .ok grouped ∧
    window {} grouped { function := .rank, column := some "sold" } none .descending =
      .ok { working := .rows ranked, windowColumn := some "sold" } := by
  intro small large state tiny grouped ranked
  constructor
  · rw [group_eq_ok]
    exact ⟨rfl, none, rfl, by decide +kernel⟩
  · rw [window_eq_ok]
    exact ⟨some "sold", rfl, none, rfl, by decide +kernel⟩

end TableTalk.Engine
