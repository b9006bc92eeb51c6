import TableTalk.Proofs.Engine.Chronology

/-!
# Changes over time

The remark on a change over time compares the first numbers of the first and of the last
row. It speaks of the first and the last period, and of these the rows at the ends are as
long as nothing puts the periods into another order. A plan that sorts its answer, ranks
aggregated periods, or has another column in place of the period can turn the change
around.
-/

namespace TableTalk

namespace Insights

variable {rows : Dataset} {row : Row} {x : Float} {line : String}

/-- The column in which the first number of a row stands. -/
def firstNumberColumn? (row : Row) : Option String :=
  (row.cells.find? fun cell => cell.2.isNumeric).map Prod.fst

/-- What is said of a change between two numbers. -/
def trendText (x y : Float) : String :=
  let change := (y - x) / Decimal.abs x * 100.0
  "Trend: " ++ changeWord change ++ " by " ++ Decimal.fixedText 1 (Decimal.abs change) ++
    "% from the first to the last period"

theorem exists_firstNumberColumn (h : firstNumber? row = some x) :
    ∃ column, firstNumberColumn? row = some column ∧ (row.value column).number? = some x := by
  obtain ⟨before, cell, after, hcells, hcell, hbefore⟩ := List.findSome?_eq_some_iff.mp h
  have hnumeric : cell.2.isNumeric = true := by rw [Value.isNumeric, hcell]; rfl
  refine ⟨cell.1, ?_, ?_⟩
  · have hskip : before.find? (fun cell => cell.2.isNumeric) = none := by
      refine List.find?_eq_none.mpr fun other hother => ?_
      rw [Value.isNumeric, hbefore other hother]
      exact Bool.false_ne_true
    rw [firstNumberColumn?, hcells, List.find?_append, hskip, Option.none_or,
      List.find?_cons, hnumeric]
    rfl
  · have hmem : (cell.1, cell.2) ∈ row.cells := hcells ▸ List.mem_append_right _ List.mem_cons_self
    rw [Row.value, Row.get?_eq_some_iff.mpr hmem, Option.getD_some, hcell]

/-- A change is told of the first numbers of the rows at the two ends. -/
theorem exists_ends_of_trend (h : trend? rows = some line) :
    ∃ first last x y, rows.head? = some first ∧ rows.getLast? = some last ∧
      firstNumber? first = some x ∧ firstNumber? last = some y ∧ line = trendText x y := by
  rw [trend?] at h
  split at h
  case isTrue => cases h
  case isFalse =>
    obtain ⟨x, hx, h⟩ := Option.bind_eq_some_iff.mp h
    obtain ⟨y, hy, h⟩ := Option.bind_eq_some_iff.mp h
    obtain ⟨first, hfirst, hx⟩ := Option.bind_eq_some_iff.mp hx
    obtain ⟨last, hlast, hy⟩ := Option.bind_eq_some_iff.mp hy
    split at h
    · cases h
    · exact ⟨first, last, x, y, hfirst, hlast, hx, hy, (Option.some.inj h).symm⟩

end Insights

namespace Planning

/-- The intent asks for something that puts its answer out of the order of time: a sort, ranks over
all periods, or a column that takes the place of the period. -/
inductive Rearranges (intent : Intent) : Prop
  | sorted (h : ¬ (intent.order = none ∧ intent.orderColumn = none))
  | ranked (h : intent.ranksWindow = true) (aggregated : intent.aggregations ≠ [])
  | renamed (h : periodColumn ∈ intent.groupBy)

end Planning

namespace Engine

open Insights (firstNumber? firstNumberColumn? trendText)
open Planning (Rearranges plannedAggregations windowStep)

variable {options : Options} {state reached : State} {intent : Intent} {rows : Dataset}

section Plans

theorem finishing_of_unsorted (unsorted : intent.order = none ∧ intent.orderColumn = none) :
    Planning.finishing intent = (intent.window.map (windowStep intent)).toList ++
      ((intent.slice.map Step.statistical).toList ++ (intent.limit.map Step.limit).toList) := by
  rw [Planning.finishing, Planning.orderStep?, if_pos unsorted, Option.toList_none,
    List.append_nil, List.append_assoc]

theorem keepsTime_of_cut {step : Step}
    (h : step ∈ (intent.slice.map Step.statistical).toList ++ (intent.limit.map Step.limit).toList)
    (working : WorkingSet) : KeepsTime working step := by
  simp only [List.mem_append, Option.mem_toList, Option.map_eq_some_iff] at h
  rcases h with ⟨slice, -, rfl⟩ | ⟨count, -, rfl⟩
  · trivial
  · trivial

/-- A window over aggregated periods that does not rank them runs in their order. -/
theorem keepsTime_windowStep {request : WindowRequest} (hwindow : intent.window = some request)
    (overTime : intent.time.isSome = true) (steady : ¬ Rearranges intent)
    (aggregated : plannedAggregations intent ≠ []) (working : WorkingSet) :
    KeepsTime working (windowStep intent request) := by
  have hruns : request.function.ranksValues = false := by
    rw [← Bool.not_eq_true]
    intro hranks
    refine steady (.ranked ?_ fun hnone => aggregated ?_)
    · rw [Intent.ranksWindow, hwindow]
      exact hranks
    · have hseries : Planning.seriesAggregation? intent = none := by
        refine Option.eq_none_iff_forall_ne_some.mpr fun aggregation h => ?_
        obtain ⟨other, hother, hruns, -⟩ := Planning.mem_seriesAggregation?_iff.mp h
        obtain rfl := Option.some.inj (hwindow.symm.trans hother)
        rw [hranks] at hruns
        cases hruns
      rw [plannedAggregations, hnone, hseries]
      rfl
  have horder : intent.order = none :=
    (not_not.mp fun h => steady (.sorted h)).1
  refine Or.inr ⟨hruns, ?_, ?_⟩
  · simp [hruns, overTime]
  · simp [hruns, horder]

/-- Groups in the order of time are followed by figures, windows and cuts in this order. -/
theorem isChronological_of_grouped {grouped : State} (overTime : intent.time.isSome = true)
    (steady : ¬ Rearranges intent) (hgroups : ¬ grouped.working.IsPlain)
    (hstart : grouped.working.IsChronological)
    (ok : carryOut options grouped (((Planning.aggregateStep? intent).toList ++
      Planning.finishing intent).map .ofStep) = .ok reached) :
    reached.working.IsChronological := by
  rw [finishing_of_unsorted (not_not.mp fun h => steady (.sorted h))] at ok
  -- the step right after the grouping meets the groups, all others meet rows
  by_cases haggregated : plannedAggregations intent = []
  · rw [Planning.aggregateStep?, if_pos haggregated, Option.toList_none, List.nil_append] at ok
    cases hwindow : intent.window with
    | none =>
      rw [hwindow] at ok
      exact chronological_carryOut hstart (fun step hstep => keepsTime_of_cut hstep) ok
    | some request =>
      rw [hwindow] at ok
      obtain ⟨next, hstep, ok⟩ := carryOut_cons_eq_ok.mp ok
      have hkeeps : KeepsTime grouped.working (windowStep intent request) := Or.inl hgroups
      have hnext := chronological_runStep hstart hkeeps hstep
      exact chronological_carryOut hnext (fun step hstep => keepsTime_of_cut hstep) ok
  · rw [Planning.aggregateStep?, if_neg haggregated, Option.toList_some,
      List.singleton_append] at ok
    obtain ⟨next, hstep, ok⟩ := carryOut_cons_eq_ok.mp ok
    have hkeeps : KeepsTime grouped.working (.aggregate (plannedAggregations intent)) := hgroups
    have hnext := chronological_runStep hstart hkeeps hstep
    refine chronological_carryOut hnext (fun step hstep => ?_) ok
    rcases List.mem_append.mp hstep with hstep | hstep
    · rw [Option.mem_toList, Option.map_eq_some_iff] at hstep
      obtain ⟨request, hwindow, rfl⟩ := hstep
      exact keepsTime_windowStep hwindow overTime steady haggregated
    · exact keepsTime_of_cut hstep

/-- A plan over time that rearranges nothing ends with its rows in the order of time. -/
theorem isChronological_reached (overTime : intent.time.isSome = true)
    (steady : ¬ Rearranges intent)
    (ok : carryOut options state ((Planning.steps intent).map .ofStep) = .ok reached) :
    reached.working.IsChronological := by
  obtain ⟨time, htime⟩ := Option.isSome_iff_exists.mp overTime
  have hgrouping : intent.hasGrouping = true := by
    rw [Intent.hasGrouping, overTime, Bool.or_true]
  have hlast : (Planning.selecting intent ++ Planning.gathering intent).getLast? =
      some (.group intent.groupBy intent.time) := by
    rw [List.getLast?_append, Planning.getLast?_gathering hgrouping, Option.some_or]
  rw [Planning.steps_eq_parts, ← List.append_assoc, List.map_append, carryOut_append_eq_ok] at ok
  obtain ⟨grouped, hgrouped, ok⟩ := ok
  obtain ⟨ungrouped, hgroup⟩ := exists_group_of_getLast? hlast hgrouped
  rw [htime] at hgroup
  obtain ⟨found, hworking, hkeys⟩ := chronological_group (fun h => steady (.renamed h)) hgroup
  refine isChronological_of_grouped overTime steady ?_ ?_ ok
  · rw [hworking]
    exact id
  · rw [hworking]
    exact hkeys

end Plans

/-- The rows at the two ends have the least and the greatest period, and their first numbers stand
in one column. -/
def ComparesPeriods (rows : Dataset) : Prop :=
  ∃ first last column, rows.head? = some first ∧ rows.getLast? = some last ∧
    Spans rows first last ∧ firstNumberColumn? first = some column ∧
    firstNumberColumn? last = some column

/-- A line tells the change of one column from a row of the first to a row of the last period. -/
def TellsChange (rows : Dataset) (line : String) : Prop :=
  ∃ earliest ∈ rows, ∃ latest ∈ rows, Spans rows earliest latest ∧
    ∃ column x y, (earliest.value column).number? = some x ∧
      (latest.value column).number? = some y ∧ line = trendText x y

section Ends

variable {first last : Row} {x y : Float}

theorem comparesPeriods_iff (hfirst : rows.head? = some first) (hlast : rows.getLast? = some last)
    (hx : firstNumber? first = some x) :
    ComparesPeriods rows ↔
      firstNumberColumn? first = firstNumberColumn? last ∧ Spans rows first last := by
  constructor
  · rintro ⟨_, _, column, hhead, hend, hspans, hc, hd⟩
    obtain rfl := Option.some.inj (hfirst.symm.trans hhead)
    obtain rfl := Option.some.inj (hlast.symm.trans hend)
    exact ⟨hc.trans hd.symm, hspans⟩
  · rintro ⟨hsame, hspans⟩
    obtain ⟨column, hcolumn, -⟩ := Insights.exists_firstNumberColumn hx
    exact ⟨first, last, column, hfirst, hlast, hspans, hcolumn, hsame ▸ hcolumn⟩

theorem tellsChange_of_comparesPeriods (hfirst : rows.head? = some first)
    (hlast : rows.getLast? = some last) (hx : firstNumber? first = some x)
    (hy : firstNumber? last = some y) (compares : ComparesPeriods rows) :
    TellsChange rows (trendText x y) := by
  obtain ⟨hsame, hspans⟩ := (comparesPeriods_iff hfirst hlast hx).mp compares
  obtain ⟨column, hcolumn, hvalue⟩ := Insights.exists_firstNumberColumn hx
  obtain ⟨other, hother, hvalue'⟩ := Insights.exists_firstNumberColumn hy
  obtain rfl : column = other := Option.some.inj (hcolumn.symm.trans (hsame.trans hother))
  exact ⟨first, List.mem_of_mem_head? hfirst, last, List.mem_of_mem_getLast? hlast, hspans,
    column, x, y, hvalue, hvalue', rfl⟩

end Ends

/-- A result over time that remarks on a change compares the first numbers of its first and its last
row. These are cells of one column, in rows of the first and of the last period, exactly if the
first numbers stand in one column and the rows have the extreme periods; they do have them unless
the intent rearranges the periods. -/
theorem trend_compares_periods_iff (options : Options) (dataset : Dataset) (intent : Intent)
    (database : String) (nonempty : dataset ≠ []) (overTime : intent.time.isSome = true)
    (line : String) :
    let result := execute options dataset (Planning.plan intent database)
    result.success = true → Insights.trend? result.rows = some line →
      line ∈ result.insights ∧
      ∃ first last x y, result.rows.head? = some first ∧ result.rows.getLast? = some last ∧
        firstNumber? first = some x ∧ firstNumber? last = some y ∧ line = trendText x y ∧
        (ComparesPeriods result.rows ↔
          firstNumberColumn? first = firstNumberColumn? last ∧
            (Rearranges intent → Spans result.rows first last)) ∧
        (ComparesPeriods result.rows → TellsChange result.rows line) := by
  intro result succeeded htrend
  obtain ⟨reached, ok⟩ := exists_carryOut_of_success nonempty succeeded
  obtain ⟨entries, -, hexecute⟩ := execute_of_carryOut (Planning.plan intent database) nonempty ok
  have hrows : result.rows = reached.working.output := congrArg Result.rows hexecute
  have hinsights : result.insights =
      Insights.remarks result.rows intent options.outlierMultiplier := by
    rw [hrows]
    exact congrArg Result.insights hexecute
  obtain ⟨first, last, x, y, hfirst, hlast, hx, hy, rfl⟩ := Insights.exists_ends_of_trend htrend
  refine ⟨?_, first, last, x, y, hfirst, hlast, hx, hy, rfl, ?_,
    tellsChange_of_comparesPeriods hfirst hlast hx hy⟩
  · rw [hinsights, Insights.remarks, overTime, if_pos rfl, htrend]
    exact List.mem_append_right _ (List.mem_singleton_self _)
  · rw [comparesPeriods_iff hfirst hlast hx]
    refine and_congr_right fun _ => ⟨fun hspans _ => hspans, fun hspans => ?_⟩
    by_cases hrearranges : Rearranges intent
    · exact hspans hrearranges
    · have hchronological := (isChronological_reached overTime hrearranges ok).output
      rw [← hrows] at hchronological
      exact hchronological.spans hfirst hlast

/-- Ratings of three months. -/
def ratedDays : Dataset :=
  let rated (day : String) (rating : Int64) : Row :=
    .ofCells [("day", .text day), ("rating", .integer rating)]
  [rated "2024-01-10" 2, rated "2024-02-10" 5, rated "2024-03-10" 4]

/-- The average rating by month, as it comes or sorted. -/
def monthlyRating (order : Option Direction) : Intent :=
  { aggregations := [{ function := .avg, column := some "rating" }]
    time := some { interval := .month, column := none }
    order }

/-- The average rating of a month. -/
def monthRow (month : String) (rating : Float) : Row :=
  .ofCells [("period", .text month), ("avg_rating", .float rating)]

theorem monthly_rating_increased :
    let result := execute {} ratedDays (Planning.plan (monthlyRating none) "memory")
    let line := "Trend: increased by 100.0% from the first to the last period"
    ratedDays ≠ [] ∧ (monthlyRating none).time.isSome = true ∧ result.success = true ∧
    Insights.trend? result.rows = some line ∧ line ∈ result.insights ∧
    ¬ Rearranges (monthlyRating none) ∧ ComparesPeriods result.rows ∧
    TellsChange result.rows line := by
  intro result line
  have nonempty : ratedDays ≠ [] := by decide
  have succeeded : result.success = true := by decide +kernel
  have htrend : Insights.trend? result.rows = some line := by decide +kernel
  have hrows : result.rows =
      [monthRow "2024-01" 2.0, monthRow "2024-02" 5.0, monthRow "2024-03" 4.0] := by decide +kernel
  have steady : ¬ Rearranges (monthlyRating none) := by
    rintro (hsorted | ⟨hranked, -⟩ | hrenamed)
    · exact hsorted ⟨rfl, rfl⟩
    · cases hranked
    · cases hrenamed
  obtain ⟨hmem, first, last, x, y, hfirst, hlast, -, -, -, hiff, htells⟩ :=
    trend_compares_periods_iff {} ratedDays (monthlyRating none) "memory" nonempty rfl line
      succeeded htrend
  have hcompares : ComparesPeriods result.rows := by
    refine hiff.mpr ⟨?_, fun hrearranges => absurd hrearranges steady⟩
    rw [hrows] at hfirst hlast
    obtain rfl := Option.some.inj hfirst
    obtain rfl := Option.some.inj hlast
    decide +kernel
  exact ⟨nonempty, rfl, succeeded, htrend, hmem, steady, hcompares, htells hcompares⟩

/-- The number that stands under some column is one of the numbers of the row. -/
theorem mem_numbers_of_value {row : Row} {column : String} {x : Float}
    (h : (row.value column).number? = some x) :
    x ∈ row.cells.filterMap fun cell => cell.2.number? := by
  rw [Row.value] at h
  cases hcell : row.get? column with
  | none =>
    rw [hcell] at h
    cases h
  | some value =>
    rw [hcell] at h
    exact List.mem_filterMap.mpr ⟨_, Row.get?_eq_some_iff.mp hcell, h⟩

/-- The average ratings in descending order: the rating has doubled, and the remark says that it has
fallen. -/
theorem sorted_rating_misleads :
    let result := execute {} ratedDays (Planning.plan (monthlyRating (some .descending)) "memory")
    let line := "Trend: decreased by 60.0% from the first to the last period"
    result.success = true ∧ Insights.trend? result.rows = some line ∧ line ∈ result.insights ∧
    ¬ TellsChange result.rows line := by
  intro result line
  have hrows : result.rows =
      [monthRow "2024-02" 5.0, monthRow "2024-03" 4.0, monthRow "2024-01" 2.0] := by decide +kernel
  refine ⟨by decide +kernel, by decide +kernel, by decide +kernel, ?_⟩
  rw [hrows]
  rintro ⟨earliest, hearliest, latest, hlatest, hspans, column, x, y, hx, hy, hline⟩
  have hfirst := hspans.between (monthRow "2024-01" 2.0) (by decide +kernel)
  have hlast := hspans.between (monthRow "2024-03" 4.0) (by decide +kernel)
  simp only [List.mem_cons, List.not_mem_nil, or_false] at hearliest hlatest
  obtain rfl : earliest = monthRow "2024-01" 2.0 := by
    rcases hearliest with rfl | rfl | rfl
    · exact absurd hfirst.1 (by decide +kernel)
    · exact absurd hfirst.1 (by decide +kernel)
    · rfl
  obtain rfl : latest = monthRow "2024-03" 4.0 := by
    rcases hlatest with rfl | rfl | rfl
    · exact absurd hlast.2 (by decide +kernel)
    · rfl
    · exact absurd hlast.2 (by decide +kernel)
  have hnumbers : ((monthRow "2024-01" 2.0).cells.filterMap fun cell => cell.2.number?) = [2.0] ∧
      ((monthRow "2024-03" 4.0).cells.filterMap fun cell => cell.2.number?) = [4.0] := by
    decide +kernel
  obtain rfl : x = 2.0 := List.mem_singleton.mp (hnumbers.1 ▸ mem_numbers_of_value hx)
  obtain rfl : y = 4.0 := List.mem_singleton.mp (hnumbers.2 ▸ mem_numbers_of_value hy)
  have hgrowth : "Trend: decreased by 60.0% from the first to the last period" ≠
      trendText 2.0 4.0 := by decide +kernel
  exact hgrowth hline

end Engine

end TableTalk
