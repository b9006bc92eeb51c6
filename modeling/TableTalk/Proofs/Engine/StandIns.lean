import TableTalk.Proofs.Engine.Groups
import TableTalk.Proofs.Engine.LateColumns

/-!
# Figures that stand in for columns

Where a name is no column of the rows, the figure that stands in for it is looked for by
text: the first metric whose name ends in an underscore and the name. This finds the
metrics of the column. It also finds metrics of other columns, of which the name is only an
end: `price` is an end of `unit_price`, and of the two columns of a correlation written one
after the other. A step that names such a column runs over the figures of another one, and
nothing is said of it.
-/

namespace TableTalk

namespace Text

variable {tail text x y : String}

/-- A text is all of another one, or what follows one of its underscores. -/
def IsTail (tail text : String) : Prop :=
  text = tail ∨ ∃ front, text = front ++ "_" ++ tail

theorem endsWith_iff : endsWith text tail = true ↔ ∃ front, text = front ++ tail := by
  rw [endsWith, List.isSuffixOf_iff_suffix]
  constructor
  · rintro ⟨front, hfront⟩
    exact ⟨String.ofList front, String.toList_inj.mp (by simp [hfront])⟩
  · rintro ⟨front, rfl⟩
    exact ⟨front.toList, String.toList_append.symm⟩

/-- Where an underscore and a tail end an underscore and a text, the tail is one of the text. -/
theorem isTail_of_underscore {front : List Char}
    (h : '_' :: text.toList = front ++ '_' :: tail.toList) : IsTail tail text := by
  rcases List.cons_eq_append_iff.mp h with ⟨-, heq⟩ | ⟨rest, -, heq⟩
  · exact Or.inl (String.toList_inj.mp (List.cons_inj_right '_' |>.mp heq).symm)
  · exact Or.inr ⟨String.ofList rest, String.toList_inj.mp (by simp [heq])⟩

theorem endsWith_underscore_iff :
    endsWith ("_" ++ text) ("_" ++ tail) = true ↔ IsTail tail text := by
  rw [endsWith_iff]
  constructor
  · rintro ⟨front, h⟩
    rw [← String.toList_inj] at h
    have hlists : '_' :: text.toList = front.toList ++ '_' :: tail.toList := by simpa using h
    exact isTail_of_underscore hlists
  · rintro (rfl | ⟨front, rfl⟩)
    · exact ⟨"", String.empty_append.symm⟩
    · exact ⟨"_" ++ front, by simp only [String.append_assoc]⟩

/-- The tails of two texts that are joined are those of the second one, and those of the first one
with all of the second one after them. -/
theorem isTail_joined_iff : IsTail tail (x ++ "_" ++ y) ↔
    IsTail tail y ∨ ∃ rest, tail = rest ++ "_" ++ y ∧ IsTail rest x := by
  constructor
  · rintro (rfl | ⟨front, h⟩)
    · exact Or.inr ⟨x, rfl, Or.inl rfl⟩
    rw [← String.toList_inj] at h
    have hlists : x.toList ++ '_' :: y.toList = front.toList ++ '_' :: tail.toList := by
      simpa using h
    -- the underscore before the tail is in the second text, between the two, or in the first one
    rcases List.append_eq_append_iff.mp hlists with ⟨between, -, hy⟩ | ⟨between, hx, htail⟩
    · exact Or.inl (isTail_of_underscore hy)
    rcases List.cons_eq_append_iff.mp htail with ⟨-, heq⟩ | ⟨rest, rfl, heq⟩
    · exact Or.inl (Or.inl (String.toList_inj.mp (List.cons_inj_right '_' |>.mp heq)))
    · refine Or.inr ⟨String.ofList rest, String.toList_inj.mp (by simp [heq]), Or.inr ⟨front, ?_⟩⟩
      exact String.toList_inj.mp (by simp [hx])
  · rintro ((rfl | ⟨front, rfl⟩) | ⟨rest, rfl, rfl | ⟨front, rfl⟩⟩)
    · exact Or.inr ⟨x, rfl⟩
    · exact Or.inr ⟨x ++ "_" ++ front, by simp only [String.append_assoc]⟩
    · exact Or.inl rfl
    · exact Or.inr ⟨front, by simp only [String.append_assoc]⟩

/-- What comes before all underscores of a text does not matter for its tails. -/
theorem endsWith_append_iff {label : String} (plain : '_' ∉ label.toList) :
    endsWith (label ++ text) ("_" ++ tail) = true ↔
      endsWith text ("_" ++ tail) = true := by
  simp only [endsWith_iff]
  constructor
  · rintro ⟨front, h⟩
    -- an underscore that begins a tail and is not in the text would be in the label
    rw [← String.toList_inj] at h
    have hlists : label.toList ++ text.toList = front.toList ++ '_' :: tail.toList := by
      simpa using h
    rcases List.append_eq_append_iff.mp hlists with ⟨between, -, htext⟩ | ⟨between, hlabel, htail⟩
    · exact ⟨String.ofList between, String.toList_inj.mp (by simp [htext])⟩
    rcases List.cons_eq_append_iff.mp htail with ⟨-, heq⟩ | ⟨rest, rfl, -⟩
    · exact ⟨"", String.toList_inj.mp (by simp [heq])⟩
    · exact absurd (hlabel ▸ List.mem_append_right _ List.mem_cons_self) plain
  · rintro ⟨front, rfl⟩
    exact ⟨label ++ front, by rw [String.append_assoc]⟩

end Text

namespace Engine

namespace Metric

/-- The last column in the name of a metric. -/
def lastColumn? (metric : Metric) : Option String :=
  metric.column.map fun x => metric.pairedWith.getD x

/-- Whether the text of a metric's columns ends in an underscore and a name. -/
def endsIn (column : String) (metric : Metric) : Bool :=
  Text.endsWith metric.columnText ("_" ++ column)

/-- A name is an end of the text of a metric's columns and not the last column: only an end of it,
or the last column with the first one or an end of that before it. -/
inductive Strays (metric : Metric) (column : String) : Prop
  | part (front : String) (h : metric.lastColumn? = some (front ++ "_" ++ column))
  | joined {x y rest : String} (first : metric.column = some x)
    (second : metric.pairedWith = some y) (tail : Text.IsTail rest x)
    (h : column = rest ++ "_" ++ y)

variable {metric : Metric} {column : String}

/-- What ends the text of a metric's columns is the last column, or it strays. -/
theorem endsIn_iff :
    metric.endsIn column = true ↔ metric.lastColumn? = some column ∨ metric.Strays column := by
  obtain ⟨function, first, second, name⟩ := metric
  cases first with
  | none =>
    constructor
    · intro h
      obtain ⟨front, h⟩ := Text.endsWith_iff.mp h
      simpa [columnText] using congrArg String.toList h
    · rintro (h | ⟨front, h⟩ | ⟨h, -, -, -⟩) <;> cases h
  | some x =>
    cases second with
    | none =>
      rw [endsIn, columnText, Text.endsWith_underscore_iff]
      constructor
      · rintro (rfl | ⟨front, rfl⟩)
        · exact Or.inl rfl
        · exact Or.inr (.part front rfl)
      · rintro (h | ⟨front, h⟩ | ⟨-, h, -, -⟩)
        · exact Or.inl (Option.some.inj h)
        · exact Or.inr ⟨front, Option.some.inj h⟩
        · cases h
    | some y =>
      have htext : columnText ⟨function, some x, some y, name⟩ = "_" ++ (x ++ "_" ++ y) := by
        simp only [columnText, String.append_assoc]
      rw [endsIn, htext, Text.endsWith_underscore_iff, Text.isTail_joined_iff]
      constructor
      · rintro ((rfl | ⟨front, rfl⟩) | ⟨rest, rfl, htail⟩)
        · exact Or.inl rfl
        · exact Or.inr (.part front rfl)
        · exact Or.inr (.joined rfl rfl htail rfl)
      · rintro (h | ⟨front, h⟩ | ⟨hx, hy, htail, rfl⟩)
        · exact Or.inl (Or.inl (Option.some.inj h))
        · exact Or.inl (Or.inr ⟨front, Option.some.inj h⟩)
        · obtain rfl := Option.some.inj hx
          obtain rfl := Option.some.inj hy
          exact Or.inr ⟨_, rfl, htail⟩

theorem Named.endsWith_name (named : metric.Named) (column : String) :
    Text.endsWith metric.name ("_" ++ column) = metric.endsIn column := by
  rw [Bool.eq_iff_iff, named.name, endsIn]
  exact Text.endsWith_append_iff metric.function.notMem_label

end Metric

variable {options : Options} {state next reached : State} {aggregations : List Aggregation}
  {metrics : List Metric} {metric : Metric} {column found name : String} {step : Step}
  {later : List PlannedStep} {rows : Dataset}

section Writers

/-- The metric whose figures stand under a name: the last one that has it. -/
def writer? (metrics : List Metric) (name : String) : Option Metric :=
  metrics.reverse.find? fun metric => metric.name = name

theorem mem_of_writer (h : writer? metrics name = some metric) : metric ∈ metrics :=
  List.mem_reverse.mp (List.mem_of_find?_eq_some h)

theorem name_of_writer (h : writer? metrics name = some metric) : metric.name = name := by
  have hname := List.find?_some (show metrics.reverse.find? _ = some metric from h)
  exact of_decide_eq_true hname

theorem exists_writer (h : name ∈ metrics.map Metric.name) :
    ∃ metric, writer? metrics name = some metric := by
  obtain ⟨metric, hmetric, hname⟩ := List.mem_map.mp h
  rw [← Option.isSome_iff_exists, writer?, List.find?_isSome]
  exact ⟨metric, List.mem_reverse.mpr hmetric, decide_eq_true hname⟩

theorem get?_of_writer {row : Row} (shows : Shows metrics rows row)
    (h : writer? metrics name = some metric) : row.get? name = some (metric.compute rows) := by
  obtain ⟨-, after, before, hsplit, hother⟩ := List.find?_eq_some_iff_append.mp h
  obtain rfl := name_of_writer h
  refine shows before.reverse metric after.reverse ?_ ?_
  · rw [← List.reverse_reverse metrics, hsplit]
    simp
  · intro hmem
    obtain ⟨last, hlast, hname⟩ := List.mem_map.mp hmem
    simpa [hname] using hother last (List.mem_reverse.mp hlast)

/-- The metric over which a step runs that names a column which is not there: the first one that the
name ends or, if others have the name of that one, the last of them. -/
def standIn? (metrics : List Metric) (column : String) : Option Metric :=
  (metrics.find? (Metric.endsIn column)).bind fun first => writer? metrics first.name

theorem map_name_standIn (metrics : List Metric) (column : String) :
    (standIn? metrics column).map Metric.name =
      (metrics.find? (Metric.endsIn column)).map Metric.name := by
  rw [standIn?]
  cases hfirst : metrics.find? (Metric.endsIn column) with
  | none => rfl
  | some first =>
    have hmem := List.mem_map_of_mem (f := Metric.name) (List.mem_of_find?_eq_some hfirst)
    obtain ⟨metric, hmetric⟩ := exists_writer hmem
    rw [Option.bind_some, hmetric, Option.map_some, Option.map_some, name_of_writer hmetric]

theorem writer_of_standIn (h : standIn? metrics column = some metric) :
    writer? metrics metric.name = some metric := by
  obtain ⟨first, -, hwriter⟩ := Option.bind_eq_some_iff.mp h
  rwa [name_of_writer hwriter]

/-- The last metric of a name has the text of the first one. -/
theorem endsIn_of_standIn (named : ∀ metric ∈ metrics, metric.Named)
    (h : standIn? metrics column = some metric) : metric.endsIn column = true := by
  obtain ⟨first, hfirst, hwriter⟩ := Option.bind_eq_some_iff.mp h
  have hends : first.endsIn column = true := List.find?_some hfirst
  have htext := (named metric (mem_of_writer hwriter)).columnText_eq
    (named first (List.mem_of_find?_eq_some hfirst)) (name_of_writer hwriter)
  rwa [Metric.endsIn, htext]

end Writers

section Naming

/-- A step that names a column wherever it named another one. -/
def renameIn (column found : String) : Step → Step :=
  let rename (named : Option String) : Option String :=
    named.map fun name => if name = column then found else name
  fun
  | .window request orderBy direction =>
    .window { request with column := rename request.column } (rename orderBy) direction
  | .statistical sought => .statistical { sought with column := rename sought.column }
  | .order named direction => .order (rename named) direction
  | step => step

theorem locate_found (h : state.locate rows column = some found) :
    state.locate rows found = some found := by
  cases rows with
  | nil => cases h
  | cons first rest =>
    have hthere : first.hasColumn found = true := by
      rw [State.locate] at h
      split at h
      case isTrue hcolumn =>
        obtain rfl := Option.some.inj h
        exact hcolumn
      case isFalse =>
        have hends := List.find?_some h
        exact (Bool.and_eq_true_iff.mp hends).2
    rw [State.locate, if_pos hthere]

theorem resolve_found (h : state.locate rows column = some found) (site : Site)
    (suggest : Dataset → Option String) (missing : Fault) :
    state.resolve rows (some column) site suggest missing = .ok (some found) := by
  cases rows with
  | nil => cases h
  | cons first rest =>
    simp only [State.resolve, List.isEmpty_cons, Bool.false_eq_true, ↓reduceIte, h]

theorem resolve_rename (h : state.locate rows column = some found) (named : Option String)
    (site : Site) (suggest : Dataset → Option String) (missing : Fault) :
    state.resolve rows (named.map fun name => if name = column then found else name) site suggest
      missing = state.resolve rows named site suggest missing := by
  cases named with
  | none => rfl
  | some name =>
    by_cases hname : name = column
    · subst hname
      rw [Option.map_some, if_pos rfl, resolve_found h, resolve_found (locate_found h)]
    · rw [Option.map_some, if_neg hname]

/-- It makes no difference to a step whether it names a column or what is found for it. -/
theorem runStep_renameIn (h : state.locate (lateRows state.working step) column = some found) :
    runStep options state (renameIn column found step) = runStep options state step := by
  cases step with
  | window request orderBy direction =>
    replace h : state.locate state.working.partitionSample column = some found := h
    have horder : windowOrder state state.working.partitionSample
        (orderBy.map fun name => if name = column then found else name) direction =
          windowOrder state state.working.partitionSample orderBy direction := by
      cases orderBy with
      | none => rfl
      | some name =>
        rw [Option.map_some, windowOrder, windowOrder, ← resolve_rename h (some name),
          Option.map_some]
    simp only [renameIn, runStep, window, resolve_rename h, horder]
  | statistical sought =>
    replace h : state.locate state.working.partitionSample column = some found := h
    simp only [renameIn, runStep, slice, resolve_rename h]
  | order named direction =>
    replace h : state.locate state.working.output column = some found := h
    simp only [renameIn, runStep, order, resolve_rename h]
  | _ => rfl

end Naming

section Standing

/-- The rows are not grouped, and all of them have the figures of the latest aggregation. -/
structure HasFigures (metrics : List String) (state : State) : Prop where
  plain : state.working.IsPlain
  latest : state.metrics = metrics
  stand : ∀ row ∈ state.working.allRows, metrics ⊆ row.columns

namespace HasFigures

variable {names : List String}

theorem of_aggregate (h : aggregate state aggregations = .ok next) :
    HasFigures next.metrics next where
  plain := by
    obtain ⟨metrics, -, rfl⟩ := aggregate_eq_ok.mp h
    trivial
  latest := rfl
  stand row hrow _ hmetric := mem_columns_of_aggregate h hmetric row hrow

/-- The steps that come after an aggregation put columns into rows, leave rows out or order them. -/
theorem widens_late (plain : state.working.IsPlain)
    (late : Operation.priority .aggregate < step.operation.priority)
    (h : runStep options state step = .ok next) :
    next.metrics = state.metrics ∧
      ∃ added, Widens added state.working.allRows next.working.allRows := by
  cases step with
  | window request orderBy direction =>
    obtain ⟨hmetrics, hwidens⟩ := widens_runStep plain (Or.inl rfl) h
    exact ⟨hmetrics, _, hwidens⟩
  | statistical sought =>
    obtain ⟨hmetrics, hwidens⟩ := widens_runStep plain (Or.inr rfl) h
    exact ⟨hmetrics, _, hwidens⟩
  | order named direction =>
    obtain ⟨found, -, h⟩ := order_eq_ok.mp h
    rw [← plain.output_eq]
    cases found with
    | none =>
      subst h
      exact ⟨rfl, [], .of_subset (List.Subset.refl _)⟩
    | some column =>
      subst h
      exact ⟨rfl, [], .sortRows column direction _⟩
  | limit count =>
    obtain rfl := ok_eq_ok.mp h
    rw [← plain.output_eq]
    exact ⟨rfl, [], .of_subset (List.take_subset count _)⟩
  | _ => exact absurd late (by simp [Step.operation, Operation.priority])

theorem runStep (figures : HasFigures names state)
    (late : Operation.priority .aggregate < step.operation.priority)
    (h : runStep options state step = .ok next) : HasFigures names next := by
  obtain ⟨hmetrics, added, hwidens⟩ := widens_late figures.plain late h
  refine ⟨plain_runStep h ?_, hmetrics.trans figures.latest, fun row hrow name hname => ?_⟩
  · intro hgroup
    rw [hgroup] at late
    exact absurd late (by decide)
  · obtain ⟨source, hsource, hcolumns⟩ := hwidens row hrow
    rw [hcolumns, mem_addColumns]
    exact Or.inl (figures.stand source hsource hname)

theorem carryOut (figures : HasFigures names state)
    (late : ∀ planned ∈ later, Operation.priority .aggregate < planned.step.operation.priority)
    (ok : carryOut options state later = .ok reached) : HasFigures names reached :=
  carryOut_induction figures
    (fun planned hplanned _ _ hfigures hstep => hfigures.runStep (late planned hplanned) hstep) ok

/-- A column that is there is found itself, and a name that is none is taken for a stand-in. -/
theorem locate_eq (figures : HasFigures (metrics.map Metric.name) state)
    (named : ∀ metric ∈ metrics, metric.Named) (column : String) {first : Row}
    (hfirst : first ∈ state.working.output.head?) :
    state.locate state.working.output column =
      if column ∈ first.columns then some column
      else (standIn? metrics column).map Metric.name := by
  obtain ⟨rest, hrows⟩ := List.head?_eq_some_iff.mp hfirst
  have hmem : first ∈ state.working.allRows := by
    rw [← figures.plain.output_eq, hrows]
    exact List.mem_cons_self
  have hends : (metrics.find? ((fun name =>
        Text.endsWith name ("_" ++ column) && first.hasColumn name) ∘ Metric.name)) =
      metrics.find? (Metric.endsIn column) := by
    refine List.find?_congr fun metric hmetric => ?_
    have hthere : first.hasColumn metric.name = true :=
      Row.hasColumn_iff.mpr (figures.stand first hmem (List.mem_map_of_mem hmetric))
    rw [Function.comp_apply, hthere, Bool.and_true, (named metric hmetric).endsWith_name]
  rw [hrows, State.locate, figures.latest, List.find?_map, hends, map_name_standIn]
  simp only [Row.hasColumn_iff]

end HasFigures

end Standing

/-- The rows of which each row of figures is calculated. -/
def WorkingSet.parts : WorkingSet → List Dataset
  | .rows shown => [shown]
  | .groups found => found.map RowGroup.rows

theorem shows_summaries (metrics : List Metric) (working : WorkingSet) :
    List.Forall₂ (Shows metrics) working.parts (summaries metrics working) := by
  cases working with
  | rows shown => exact .cons (shows_summarize metrics .empty shown) .nil
  | groups found =>
    rw [WorkingSet.parts, summaries, List.forall₂_map_left_iff, List.forall₂_map_right_iff,
      List.forall₂_same]
    exact fun group _ => shows_summarize metrics group.key group.rows

/-- A metric is calculated for an aggregation that has a column: it names the column, or the column
is what its figures are calculated from. -/
def IsMadeFor (state : State) (aggregations : List Aggregation) (metric : Metric)
    (column : String) : Prop :=
  ∃ a ∈ aggregations, resolveAggregation state state.working.sample a = .ok metric ∧
    some column ∈ [a.column, a.pairedWith, metric.column, metric.pairedWith]

theorem isMadeFor_of_lastColumn (hmetrics : aggregations.mapM
      (resolveAggregation state state.working.sample) = .ok metrics) (hmetric : metric ∈ metrics)
    (h : metric.lastColumn? = some column) : IsMadeFor state aggregations metric column := by
  obtain ⟨a, ha, hresolved⟩ := exists_of_mapM_eq_ok hmetrics metric hmetric
  obtain ⟨x, hx, h⟩ := Option.map_eq_some_iff.mp h
  refine ⟨a, ha, hresolved, ?_⟩
  cases hy : metric.pairedWith with
  | none =>
    rw [hy, Option.getD_none] at h
    simp [hx, h]
  | some y =>
    rw [hy, Option.getD_some] at h
    simp [h]

/-- Whatever is found for a name that is not there has the figures of a metric for that column. -/
def StandInsAreOwn (state : State) (aggregations : List Aggregation) (metrics : List Metric)
    (reached : State) (column : String) : Prop :=
  ∀ found, reached.locate reached.working.output column = some found → found ≠ column →
    ∃ metric, writer? metrics found = some metric ∧ IsMadeFor state aggregations metric column

/-- What is found under a name that strays is what breaks the rule, and nothing else does. -/
theorem HasFigures.standInsAreOwn_iff (figures : HasFigures (metrics.map Metric.name) reached)
    (hmetrics : aggregations.mapM (resolveAggregation state state.working.sample) = .ok metrics)
    (named : ∀ metric ∈ metrics, metric.Named) :
    StandInsAreOwn state aggregations metrics reached column ↔
      ∀ first ∈ reached.working.output.head?, column ∉ first.columns →
        ∀ metric, standIn? metrics column = some metric → metric.Strays column →
          IsMadeFor state aggregations metric column := by
  constructor
  · intro hown first hfirst habsent metric hstandIn hstrays
    have hfound := figures.locate_eq named column hfirst
    rw [if_neg habsent, hstandIn, Option.map_some] at hfound
    have hwriter := writer_of_standIn hstandIn
    -- the figure is there under its name, and the column is not
    have hthere : metric.name ∈ first.columns :=
      figures.stand first (figures.plain.output_eq ▸ List.mem_of_mem_head? hfirst)
        (List.mem_map_of_mem (mem_of_writer hwriter))
    have hne : metric.name ≠ column := fun heq => habsent (heq ▸ hthere)
    obtain ⟨other, hother, hmade⟩ := hown metric.name hfound hne
    obtain rfl := Option.some.inj (hwriter.symm.trans hother)
    exact hmade
  · intro hstrays found hfound hne
    cases hfirst : reached.working.output.head? with
    | none =>
      rw [List.head?_eq_none_iff.mp hfirst] at hfound
      cases hfound
    | some first =>
      rw [figures.locate_eq named column hfirst] at hfound
      split at hfound
      case isTrue => exact absurd (Option.some.inj hfound).symm hne
      case isFalse habsent =>
        obtain ⟨metric, hstandIn, rfl⟩ := Option.map_eq_some_iff.mp hfound
        have hwriter := writer_of_standIn hstandIn
        refine ⟨metric, hwriter, ?_⟩
        rcases Metric.endsIn_iff.mp (endsIn_of_standIn named hstandIn) with hlast | hstray
        · exact isMadeFor_of_lastColumn hmetrics (mem_of_writer hwriter) hlast
        · exact hstrays first hfirst habsent metric hstandIn hstray

/-- Behind an aggregation, and behind the window functions, slices, orders and limits that follow
it, a name that is no column of the rows stands for the first metric whose columns it ends, and a
step that names it does what it does if it names that metric. The figures are those of the last of
the metrics with one name. They are figures of the column itself exactly if the name does not stray,
or an aggregation of the metric has the name all the same. -/
theorem stand_ins_are_own_iff (h : aggregate state aggregations = .ok next)
    (late : ∀ planned ∈ later, Operation.priority .aggregate < planned.step.operation.priority)
    (ok : carryOut options next later = .ok reached) (column : String) :
    ∃ metrics,
      let rows := reached.working.output
      aggregations.mapM (resolveAggregation state state.working.sample) = .ok metrics ∧
      (∀ name metric, writer? metrics name = some metric →
        List.Forall₂ (fun part row => row.get? name = some (metric.compute part))
          state.working.parts next.working.output) ∧
      (∀ first ∈ rows.head?, reached.locate rows column =
        if column ∈ first.columns then some column
        else (standIn? metrics column).map Metric.name) ∧
      (StandInsAreOwn state aggregations metrics reached column ↔
        ∀ first ∈ rows.head?, column ∉ first.columns →
          ∀ metric, standIn? metrics column = some metric → metric.Strays column →
            IsMadeFor state aggregations metric column) ∧
      ∀ found, reached.locate rows column = some found → ∀ step,
        runStep options reached (renameIn column found step) = runStep options reached step := by
  have hfigures := (HasFigures.of_aggregate h).carryOut late ok
  obtain ⟨metrics, hmetrics, rfl⟩ := aggregate_eq_ok.mp h
  have hnamed : ∀ metric ∈ metrics, metric.Named := by
    intro metric hmetric
    obtain ⟨a, -, hresolved⟩ := exists_of_mapM_eq_ok hmetrics metric hmetric
    exact (resolveAggregation_names hresolved).2
  refine ⟨metrics, hmetrics, ?_, fun first hfirst => hfigures.locate_eq hnamed column hfirst,
    hfigures.standInsAreOwn_iff hmetrics hnamed, ?_⟩
  · intro name metric hwriter
    exact (shows_summaries metrics state.working).imp fun part row shows =>
      get?_of_writer shows hwriter
  · intro found hfound step
    apply runStep_renameIn
    rwa [lateRows_of_plain hfigures.plain]

/-- The average unit price of a city stands in for the unit price. -/
theorem unit_price_finds_average :
    let sale (city : String) (price unit : Int64) : Row :=
      .ofCells [("city", .text city), ("price", .integer price), ("unit_price", .integer unit)]
    let oslo : RowGroup := ⟨.ofCells [("city", .text "Oslo")], [sale "Oslo" 9 3]⟩
    let rome : RowGroup := ⟨.ofCells [("city", .text "Rome")], [sale "Rome" 8 2]⟩
    let grouped : State := { working := .groups [oslo, rome] }
    let average : Aggregation := { function := .avg, column := some "unit_price" }
    let metric : Metric := ⟨.avg, some "unit_price", none, "avg_unit_price"⟩
    ∃ next reached,
      aggregate grouped [average] = .ok next ∧
      carryOut {} next [.ofStep (.limit 1)] = .ok reached ∧
      reached.locate reached.working.output "unit_price" = some "avg_unit_price" ∧
      StandInsAreOwn grouped [average] [metric] reached "unit_price" := by
  intro sale oslo rome grouped average metric
  let next : State :=
    { working := .rows (summaries [metric] grouped.working), metrics := [metric.name] }
  have hnext : aggregate grouped [average] = .ok next :=
    aggregate_eq_ok.mpr ⟨[metric], rfl, rfl⟩
  have hreached : carryOut {} next [.ofStep (.limit 1)] = .ok (limit next 1) := rfl
  refine ⟨next, limit next 1, hnext, hreached, by decide +kernel, ?_⟩
  obtain ⟨metrics, hmetrics, -, -, hown, -⟩ :=
    stand_ins_are_own_iff hnext (by decide) hreached "unit_price"
  obtain rfl : metrics = [metric] := (Except.ok.inj hmetrics).symm
  refine hown.mpr fun first hfirst habsent found hfound hstrays => ?_
  have hstandIn : standIn? [metric] "unit_price" = some metric := by decide +kernel
  obtain rfl := Option.some.inj (hstandIn.symm.trans hfound)
  exact ⟨average, List.mem_singleton_self _, rfl, by decide⟩

/-- The average unit price is found for the price as well, and rows are put in its order. -/
theorem price_finds_unit_price :
    let sale (city : String) (price unit : Int64) : Row :=
      .ofCells [("city", .text city), ("price", .integer price), ("unit_price", .integer unit)]
    let oslo : RowGroup := ⟨.ofCells [("city", .text "Oslo")], [sale "Oslo" 9 3]⟩
    let rome : RowGroup := ⟨.ofCells [("city", .text "Rome")], [sale "Rome" 8 2]⟩
    let grouped : State := { working := .groups [oslo, rome] }
    let average : Aggregation := { function := .avg, column := some "unit_price" }
    let metric : Metric := ⟨.avg, some "unit_price", none, "avg_unit_price"⟩
    group { working := .rows (oslo.rows ++ rome.rows) } ["city"] none = .ok grouped ∧
    resolveAggregation grouped grouped.working.sample average = .ok metric ∧
    ∃ next, aggregate grouped [average] = .ok next ∧
      ¬ StandInsAreOwn grouped [average] [metric] next "price" ∧
      order next (some "price") .ascending =
        .ok (next.withRows (Series.sortRows "avg_unit_price" .ascending next.working.output)) := by
  intro sale oslo rome grouped average metric
  refine ⟨?_, rfl, ?_⟩
  · rw [group_eq_ok]
    exact ⟨rfl, none, rfl, by decide +kernel⟩
  let next : State :=
    { working := .rows (summaries [metric] grouped.working), metrics := [metric.name] }
  have hlocate : next.locate next.working.output "price" = some "avg_unit_price" := by
    decide +kernel
  refine ⟨next, aggregate_eq_ok.mpr ⟨[metric], rfl, rfl⟩, ?_, ?_⟩
  · intro hown
    obtain ⟨found, hfound, a, ha, -, hcolumn⟩ := hown "avg_unit_price" hlocate (by decide)
    have hwriter : writer? [metric] "avg_unit_price" = some metric := by decide +kernel
    obtain rfl := Option.some.inj (hwriter.symm.trans hfound)
    obtain rfl := List.mem_singleton.mp ha
    revert hcolumn
    decide
  · exact order_eq_ok.mpr ⟨some "avg_unit_price", resolve_found hlocate _ _ _, rfl⟩

end Engine

end TableTalk
