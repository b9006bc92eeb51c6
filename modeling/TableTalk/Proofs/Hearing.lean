import TableTalk.Proofs.Reading

/-!
# The parts of a reading

The words of a question are heard one role at a time: each scanner finds its own part
of the intent in the question, and only then are groups formed of ranked figures, open
roles filled, and the need for a clarification noted. These last steps leave what has
been heard as it is.
-/

namespace TableTalk.Question

variable {question : String} {schema : Schema} {threshold : Float} {intent found : Intent}
  {column : String}

/-- A question in lower case without the slices that it asks for. -/
def scanned (question : String) : String :=
  let lowered := Text.lower question
  if (slice? lowered).isSome then Text.substitute percentPattern " " lowered else lowered

/-- The calculations that a question asks for, with the columns that it names right after their
keywords. -/
def askedAggregations (question : String) (schema : Schema) (threshold : Float) :
    List Aggregation :=
  let (window, text) := windowAndRest (Matching.phraseText (scanned question))
  let ranking :=
    (limitAndOrder (scanned question)).1.isSome || window.any fun w => w.function.ranksValues
  aggregations (Matching.references question schema.columnNames threshold) ranking text

/-- The column that a question asks to sort by, or that a mere "by" names in a question that orders
its answer. -/
def orderColumn? (columns : List String) (threshold : Float) (isRanking : Bool) (scan : String) :
    Option String :=
  sortColumn? columns threshold scan <|>
    ((mentions columns threshold scan).find? fun m => m.isPlain && isRanking).map Mention.column

/-- The columns that a question asks to group by. -/
def groups (columns : List String) (threshold : Float) (isRanking : Bool) (scan : String) :
    List String :=
  (((mentions columns threshold scan).filter fun m => !(m.isPlain && isRanking)).map
    Mention.column).eraseDups

/-- An intent consists of what is heard in a question, role by role. -/
structure Heard (question : String) (schema : Schema) (threshold : Float) (found : Intent) :
    Prop where
  references : found.references = Matching.references question schema.columnNames threshold
  aggregations : found.aggregations = askedAggregations question schema threshold
  filters : found.filters = comparisons schema.columnNames threshold (scanned question)
  groups : found.groupBy =
    groups schema.columnNames threshold found.isRanking (scanned question)
  order : found.orderColumn =
    orderColumn? schema.columnNames threshold found.isRanking (scanned question)

/-- A reading begins with what is heard. -/
theorem exists_heard (question : String) (schema : Schema) (threshold : Float) :
    ∃ found, Heard question schema threshold found ∧
      read question schema threshold =
        refreshClarification (assignRoles (groupRankedAggregates schema found)) := by
  unfold read
  dsimp only
  generalize hscan : (if (slice? (Text.lower question)).isSome then _ else _) = scan
  generalize hlimits : limitAndOrder scan = limits
  generalize hasked : windowAndRest (Matching.phraseText scan) = asked
  obtain ⟨limit, limitOrder⟩ := limits
  obtain ⟨window, text⟩ := asked
  have hscanned : scanned question = scan := hscan
  refine ⟨_, ?_, rfl⟩
  constructor
  case references => simp only [withGroups]
  case aggregations => simp only [withGroups, askedAggregations, hscanned, hlimits, hasked]
  case filters => simp only [hscanned]
  case groups =>
    simp only [withGroups, groups, hscanned, Intent.isRanking, Intent.ranksWindow]
  case order =>
    simp only [withGroups, orderColumn?, hscanned, Intent.isRanking, Intent.ranksWindow]

section LastSteps

/-- Grouping ranked figures changes the groups only. -/
theorem groupRankedAggregates_eq (schema : Schema) (intent : Intent) :
    groupRankedAggregates schema intent =
      { intent with groupBy := (groupRankedAggregates schema intent).groupBy } := by
  unfold groupRankedAggregates
  dsimp only
  split <;> rfl

/-- Ranked figures are grouped by columns that the question names outright, if it asks for no
groups itself. -/
theorem groupBy_groupRankedAggregates (schema : Schema) (intent : Intent) :
    (groupRankedAggregates schema intent).groupBy = intent.groupBy ∨
      intent.groupBy = [] ∧
        ∀ column ∈ (groupRankedAggregates schema intent).groupBy,
          ∃ r ∈ intent.references, r.kind = .exact ∧ r.column = column := by
  unfold groupRankedAggregates
  dsimp only
  split
  case isTrue => exact Or.inl rfl
  case isFalse hgroups =>
    refine Or.inr ⟨by simp_all, fun column h => ?_⟩
    obtain ⟨r, hr, rfl⟩ := List.mem_map.mp (List.mem_filter.mp h).1
    obtain ⟨hmem, hkind⟩ := List.mem_filter.mp hr
    exact ⟨r, hmem, beq_iff_eq.mp hkind, rfl⟩

theorem isRanking_assignRoles (intent : Intent) :
    (assignRoles intent).isRanking = intent.isRanking := by
  simp only [Intent.isRanking, Intent.ranksWindow, assignRoles, Option.isSome_map, Option.any_map]

end LastSteps

section Read

theorem references_read (question : String) (schema : Schema) (threshold : Float) :
    (read question schema threshold).references =
      Matching.references question schema.columnNames threshold := by
  obtain ⟨found, heard, hread⟩ := exists_heard question schema threshold
  rw [hread, ← heard.references, groupRankedAggregates_eq]
  rfl

theorem filters_read (question : String) (schema : Schema) (threshold : Float) :
    (read question schema threshold).filters =
      comparisons schema.columnNames threshold (scanned question) := by
  obtain ⟨found, heard, hread⟩ := exists_heard question schema threshold
  rw [hread, ← heard.filters, groupRankedAggregates_eq]
  rfl

/-- The calculations are those that are asked for, with open columns filled. -/
theorem aggregations_read (question : String) (schema : Schema) (threshold : Float) :
    (read question schema threshold).aggregations =
      (askedAggregations question schema threshold).map
        (fillAggregation (candidates (read question schema threshold))) := by
  obtain ⟨found, heard, hread⟩ := exists_heard question schema threshold
  rw [hread, ← heard.aggregations, groupRankedAggregates_eq]
  rfl

theorem isRanking_read
    (hread : read question schema threshold =
      refreshClarification (assignRoles (groupRankedAggregates schema found))) :
    (read question schema threshold).isRanking = found.isRanking := by
  rw [hread, groupRankedAggregates_eq]
  exact isRanking_assignRoles { found with groupBy := (groupRankedAggregates schema found).groupBy }

/-- The column to order by is the one that is asked for. -/
theorem orderColumn_read (question : String) (schema : Schema) (threshold : Float) :
    (read question schema threshold).orderColumn =
      orderColumn? schema.columnNames threshold (read question schema threshold).isRanking
        (scanned question) := by
  obtain ⟨found, heard, hread⟩ := exists_heard question schema threshold
  rw [isRanking_read hread, ← heard.order, hread, groupRankedAggregates_eq]
  rfl

/-- The groups are those that are asked for; if there are none, they may be columns that the
question names outright. -/
theorem groupBy_read (question : String) (schema : Schema) (threshold : Float) :
    let reading := read question schema threshold
    let asked := groups schema.columnNames threshold reading.isRanking (scanned question)
    reading.groupBy = asked ∨
      asked = [] ∧
        ∀ column ∈ reading.groupBy,
          ∃ r ∈ reading.references, r.kind = .exact ∧ r.column = column := by
  intro reading asked
  obtain ⟨found, heard, hread⟩ := exists_heard question schema threshold
  have hasked : asked = found.groupBy := by
    rw [heard.groups, ← isRanking_read hread]
  have hreferences : reading.references = found.references := by
    rw [heard.references]
    exact references_read question schema threshold
  have hgroups : reading.groupBy = (groupRankedAggregates schema found).groupBy := by
    change (read question schema threshold).groupBy = _
    rw [hread]
    rfl
  rw [hasked, hreferences, hgroups]
  exact groupBy_groupRankedAggregates schema found

end Read

end TableTalk.Question
