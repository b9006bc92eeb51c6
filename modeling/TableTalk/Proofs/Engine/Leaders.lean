import TableTalk.Proofs.Cleaning.Columns
import TableTalk.Proofs.Engine.Runs
import TableTalk.Proofs.Sorting

/-!
# The first rows of an order

Ordering rows by a column and keeping the first ones picks rows of the cleaned
dataset by their places in it. The places that are picked are told apart from the
others by the cells alone where these differ, and by the places where they tie.
-/

namespace TableTalk.Engine

variable {column : String} {direction : Direction} {count : Nat} {rows : Dataset}

/-- The value under a column in the row at some place. -/
def cellAt (column : String) (rows : Dataset) (place : Nat) : Value :=
  (rows.getD place .empty).value column

/-- The rows that were taken are the first ones in the order of a column. They stand at `places` in
the dataset, and the rows that were left out stand at `others`. -/
structure LeadersAt (column : String) (direction : Direction) (count : Nat) (rows : Dataset)
    (places others : List Nat) (taken : Dataset) : Prop where
  all : (places ++ others).Perm (List.range rows.length)
  rowsAt : taken.map some = places.map fun place => rows[place]?
  length : taken.length = min count rows.length
  sorted : taken.Pairwise fun a b => direction.precedes (b.value column) (a.value column) = false
  best : ∀ i ∈ places, ∀ j ∈ others,
    direction.precedes (cellAt column rows j) (cellAt column rows i) = false
  earliest : ∀ i ∈ places, ∀ j ∈ others,
    (cellAt column rows i).compare (cellAt column rows j) = .eq → i < j
  inOrder : places.Pairwise fun i j =>
    (cellAt column rows i).compare (cellAt column rows j) = .eq → i < j

section Tagged

/-- The rows with their places, in the order of a column. -/
def ranked (column : String) (direction : Direction) (rows : Dataset) : List (Row × Nat) :=
  Listing.sort (fun a b => direction.precedes (a.1.value column) (b.1.value column)) rows.zipIdx

theorem map_fst_ranked :
    (ranked column direction rows).map Prod.fst = Series.sortRows column direction rows := by
  rw [Series.sortRows, ranked]
  conv_rhs => rw [← List.zipIdx_map_fst 0 rows, Listing.sort_map]

theorem map_snd_ranked :
    ((ranked column direction rows).map Prod.snd).Perm (List.range rows.length) := by
  have h := (Listing.sort_perm (fun a b : Row × Nat =>
    direction.precedes (a.1.value column) (b.1.value column)) rows.zipIdx).map Prod.snd
  rwa [List.zipIdx_map_snd, ← List.range_eq_range'] at h

theorem getElem?_of_mem_ranked {tagged : Row × Nat} (h : tagged ∈ ranked column direction rows) :
    rows[tagged.2]? = some tagged.1 :=
  List.mem_zipIdx_iff_getElem?.mp (Listing.mem_sort.mp h)

theorem cellAt_of_mem_ranked {tagged : Row × Nat} (h : tagged ∈ ranked column direction rows) :
    cellAt column rows tagged.2 = tagged.1.value column := by
  rw [cellAt, List.getD_eq_getElem?_getD, getElem?_of_mem_ranked h, Option.getD_some]

/-- The order of rows with their places. -/
theorem pairwise_ranked (sized : ∀ row ∈ rows, (row.value column).isUnsized = false) :
    (ranked column direction rows).Pairwise fun a b =>
      direction.precedes (b.1.value column) (a.1.value column) = false ∧
        ((a.1.value column).compare (b.1.value column) = .eq → a.2 < b.2) := by
  refine Direction.pairwise_sort (fun tagged htagged => ?_) ?_
  · exact sized _ (List.mem_of_getElem? (List.mem_zipIdx_iff_getElem?.mp htagged))
  · rw [← List.pairwise_map (f := Prod.snd) (R := fun i j => i < j), List.zipIdx_map_snd]
    exact List.pairwise_lt_range' 1

end Tagged

/-- Ordering rows and keeping the first ones takes the leaders. -/
theorem leadersAt_take_sortRows (direction : Direction) (count : Nat)
    (sized : ∀ row ∈ rows, (row.value column).isUnsized = false) :
    LeadersAt column direction count rows
      (((ranked column direction rows).take count).map Prod.snd)
      (((ranked column direction rows).drop count).map Prod.snd)
      ((Series.sortRows column direction rows).take count) := by
  have hordered := @pairwise_ranked column direction rows sized
  have hfirst {tagged} (h : tagged ∈ (ranked column direction rows).take count) :=
    List.mem_of_mem_take h
  have hrest {tagged} (h : tagged ∈ (ranked column direction rows).drop count) :=
    List.mem_of_mem_drop h
  -- a pair of rows that were taken, and a row that was taken with one that was left out
  have hsplit := hordered
  rw [← List.take_append_drop count (ranked column direction rows), List.pairwise_append] at hsplit
  obtain ⟨hwithin, -, hacross⟩ := hsplit
  rw [← map_fst_ranked, ← List.map_take]
  constructor
  case all =>
    rw [← List.map_append, List.take_append_drop]
    exact map_snd_ranked
  case rowsAt =>
    rw [List.map_map, List.map_map]
    exact List.map_congr_left fun tagged h => (getElem?_of_mem_ranked (hfirst h)).symm
  case length =>
    rw [List.length_map, List.length_take, ← List.length_map (f := Prod.fst), map_fst_ranked,
      Series.sortRows, (Listing.sort_perm _ rows).length_eq]
  case sorted =>
    rw [List.pairwise_map]
    exact hwithin.imp fun h => h.1
  case best =>
    intro i hi j hj
    obtain ⟨a, ha, rfl⟩ := List.mem_map.mp hi
    obtain ⟨b, hb, rfl⟩ := List.mem_map.mp hj
    rw [cellAt_of_mem_ranked (hfirst ha), cellAt_of_mem_ranked (hrest hb)]
    exact (hacross a ha b hb).1
  case earliest =>
    intro i hi j hj
    obtain ⟨a, ha, rfl⟩ := List.mem_map.mp hi
    obtain ⟨b, hb, rfl⟩ := List.mem_map.mp hj
    rw [cellAt_of_mem_ranked (hfirst ha), cellAt_of_mem_ranked (hrest hb)]
    exact (hacross a ha b hb).2
  case inOrder =>
    rw [List.pairwise_map]
    refine hwithin.imp_of_mem fun ha hb h => ?_
    rw [cellAt_of_mem_ranked (hfirst ha), cellAt_of_mem_ranked (hfirst hb)]
    exact h.2

/-- The rows of a dataset are ordered by the cells that cleaning has left, and none of these is an
infinite number or NaN unless the dataset has infinite numbers. -/
theorem sized_clean (options : CleanOptions) {dataset : Dataset}
    (there : column ∈ Cleaning.columnsOf dataset)
    (finite : ∀ row ∈ dataset, (row.value column).isInfinite = false) :
    ∀ row ∈ (Cleaning.clean options dataset).rows, (row.value column).isUnsized = false := by
  rw [Cleaning.forall_mem_rows_clean]
  intro row hrow
  rw [Row.value, Cleaning.get?_cleanedRow row there, Option.getD_some]
  exact Cleaning.isUnsized_cleanCell options _ (finite row hrow)

theorem carryOut_order_limit (options : Options) (state : State) {steps : List PlannedStep}
    (there : ∀ first ∈ state.working.output.head?, column ∈ first.columns)
    (planned : steps.map PlannedStep.step = [.order (some column) direction, .limit count]) :
    ∃ reached, carryOut options state steps = .ok reached ∧
      reached.working.output =
        (Series.sortRows column direction state.working.output).take count := by
  obtain ⟨first, rest, rfl, hfirst, hrest⟩ := List.map_eq_cons_iff.mp planned
  obtain ⟨second, rest, rfl, hsecond, hrest⟩ := List.map_eq_cons_iff.mp hrest
  obtain rfl := List.map_eq_nil_iff.mp hrest
  let ordered := state.withRows (Series.sortRows column direction state.working.output)
  have hordered : runStep options state first.step = .ok ordered := by
    rw [hfirst]
    exact order_eq_ok.mpr ⟨some column, resolve_named there, rfl⟩
  have hlimited : runStep options ordered second.step = .ok (limit ordered count) := by
    rw [hsecond]
    rfl
  exact ⟨limit ordered count,
    carryOut_cons_eq_ok.mpr ⟨_, hordered, carryOut_cons_eq_ok.mpr ⟨_, hlimited, rfl⟩⟩, rfl⟩

/-- A plan that orders by a column of the dataset and keeps some rows succeeds and returns the
leaders among the cleaned rows: as many as asked for if there are as many, in the order of the
column, none of them behind a row that was left out, and ties in the order of the dataset. -/
theorem execute_order_limit (options : Options) (dataset : Dataset) (plan : Plan) (column : String)
    (direction : Direction) (count : Nat) (there : ∃ row ∈ dataset, column ∈ row.columns)
    (finite : ∀ row ∈ dataset, (row.value column).isInfinite = false)
    (planned : plan.steps.map PlannedStep.step = [.order (some column) direction, .limit count]) :
    let cleaned := (Cleaning.clean options.clean dataset).rows
    let result := execute options dataset plan
    result.success = true ∧ cleaned.length = dataset.length ∧
      ∃ places others, LeadersAt column direction count cleaned places others result.rows := by
  intro cleaned result
  have hcolumn : column ∈ Cleaning.columnsOf dataset :=
    List.mem_eraseDups.mpr (List.mem_flatMap.mpr there)
  have nonempty : dataset ≠ [] := by
    rintro rfl
    obtain ⟨row, hrow, -⟩ := there
    cases hrow
  have hthere : ∀ first ∈ cleaned.head?, column ∈ first.columns := by
    have hall : ∀ row ∈ cleaned, column ∈ row.columns := by
      rw [Cleaning.forall_mem_rows_clean]
      intro row _
      rwa [Cleaning.columns_cleanedRow]
    exact fun first hfirst => hall first (List.mem_of_head? hfirst)
  obtain ⟨reached, ok, hrows⟩ :=
    carryOut_order_limit options (Run.start options dataset).state hthere planned
  obtain ⟨entries, -, hexecute⟩ := execute_of_carryOut plan nonempty ok
  have hresult : result = _ := hexecute
  have hreturned : result.rows = (Series.sortRows column direction cleaned).take count := by
    rw [hresult]
    exact hrows
  have hlength : cleaned.length = dataset.length := by
    change (Cleaning.clean options.clean dataset).rows.length = _
    rw [Cleaning.rows_clean, List.length_map]
  have hleaders := leadersAt_take_sortRows direction count (sized_clean options.clean hcolumn finite)
  exact ⟨congrArg Result.success hresult, hlength, _, _, hreturned ▸ hleaders⟩

/-- Ratings with a tie, a gap, and a word among the numbers. -/
def mixedRatings : Dataset :=
  [.ofCells [("name", .text "a"), ("rating", .integer 4)],
    .ofCells [("name", .text "b"), ("rating", .null)],
    .ofCells [("name", .text "c"), ("rating", .float 4.0)],
    .ofCells [("name", .text "d"), ("rating", .boolean true)],
    .ofCells [("name", .text "e"), ("rating", .integer 7)]]

theorem execute_top_ratings :
    let plan : Plan :=
      { steps := [.ofStep (.order (some "rating") .descending), .ofStep (.limit 3)]
        intent := {}
        complexity := .simple
        score := 0
        database := "memory" }
    let cleaned := (Cleaning.clean {} mixedRatings).rows
    let result := execute {} mixedRatings plan
    (∃ row ∈ mixedRatings, "rating" ∈ row.columns) ∧
    (∀ row ∈ mixedRatings, (row.value "rating").isInfinite = false) ∧
    result.success = true ∧ cleaned.length = 5 ∧
    (∃ places others, LeadersAt "rating" .descending 3 cleaned places others result.rows) ∧
    result.rows.map (fun row => row.value "name") = [.text "e", .text "a", .text "c"] := by
  intro plan cleaned result
  have there : ∃ row ∈ mixedRatings, "rating" ∈ row.columns :=
    ⟨_, List.mem_cons_self, by decide⟩
  have finite : ∀ row ∈ mixedRatings, (row.value "rating").isInfinite = false := by decide +kernel
  obtain ⟨hsuccess, hlength, hleaders⟩ :=
    execute_order_limit {} mixedRatings plan "rating" .descending 3 there finite rfl
  exact ⟨there, finite, hsuccess, hlength, hleaders, by decide +kernel⟩

end TableTalk.Engine
