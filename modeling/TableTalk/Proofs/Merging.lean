import TableTalk.Proofs.Hearing

/-!
# What is taken over from the turn before

A turn that refers to no column takes over the columns of the turn before, and a turn
without groups its groups; roles that are still open are then filled from them. An
intent that is well formed for a schema stays so: it names columns of the schema only,
refers to each of them once, groups by none of them twice, and has to be clarified
exactly if it refers to no column and asks for no calculation.
-/

namespace TableTalk.Question

variable {schema : Schema} {columns : List String} {intent current before : Intent}
  {previous : Option Intent}

/-- An intent about some columns that is consistent in itself. -/
structure WellFormed (columns : List String) (intent : Intent) : Prop
    extends NamesOnly columns intent where
  distinctReferences : intent.columnNames.Nodup
  distinctGroups : intent.groupBy.Nodup
  clarification : intent.clarificationNeeded = true ↔
    intent.references = [] ∧ intent.aggregations = []

theorem clarificationNeeded_refreshClarification (intent : Intent) :
    (refreshClarification intent).clarificationNeeded = true ↔
      intent.references = [] ∧ intent.aggregations = [] := by
  simp [refreshClarification]

/-- Filling roles and noting what is to be clarified makes an intent well formed that refers to no
column twice and does not group by one twice. -/
theorem WellFormed.of_assigned (only : NamesOnly columns intent)
    (references : intent.columnNames.Nodup) (groups : intent.groupBy.Nodup) :
    WellFormed columns (refreshClarification (assignRoles intent)) where
  toNamesOnly := only.assignRoles.refreshClarification
  distinctReferences := references
  distinctGroups := groups
  clarification := clarificationNeeded_refreshClarification (assignRoles intent)

theorem nodup_references (question : String) (columns : List String) (threshold : Float) :
    ((Matching.references question columns threshold).map Matching.Reference.column).Nodup :=
  Listing.nodup_map_distinctBy

theorem nodup_groupBy_groupRankedAggregates (schema : Schema)
    (references : intent.columnNames.Nodup) (groups : intent.groupBy.Nodup) :
    (groupRankedAggregates schema intent).groupBy.Nodup := by
  unfold groupRankedAggregates
  dsimp only
  split
  · exact groups
  · exact (references.sublist (List.filter_sublist.map _)).filter _

theorem wellFormed_read (question : String) (schema : Schema) (threshold : Float) :
    WellFormed schema.columnNames (read question schema threshold) := by
  have only := namesOnly_read question schema threshold
  have hreferences := references_read question schema threshold
  have distinct := nodup_references question schema.columnNames threshold
  obtain ⟨found, heard, hread⟩ := exists_heard question schema threshold
  refine { only with distinctReferences := ?_, distinctGroups := ?_, clarification := ?_ }
  case refine_1 => rwa [Intent.columnNames, hreferences]
  case refine_2 =>
    have hgroups : found.groupBy.Nodup := heard.groups ▸ Listing.nodup_eraseDups _
    rw [← heard.references] at distinct
    rw [hread]
    exact nodup_groupBy_groupRankedAggregates schema distinct hgroups
  case refine_3 =>
    rw [hread]
    exact clarificationNeeded_refreshClarification _

/-- The intent with the columns and the groups of the turn before, where it has none of its own. -/
def takeOver (current previous : Intent) : Intent :=
  let takesColumns := current.references.isEmpty && !previous.references.isEmpty
  let takesGroups := current.groupBy.isEmpty && !previous.groupBy.isEmpty
  { current with
    references := if takesColumns then previous.references else current.references
    groupBy := if takesGroups then previous.groupBy else current.groupBy
    inheritedContext := current.inheritedContext || takesColumns || takesGroups }

theorem merge_some (current previous : Intent) :
    merge current (some previous) =
      if (takeOver current previous).inheritedContext then
        refreshClarification (assignRoles (takeOver current previous))
      else takeOver current previous := rfl

theorem references_takeOver (current previous : Intent) :
    (takeOver current previous).references =
      if current.references = [] then previous.references else current.references := by
  unfold takeOver
  cases current.references <;> cases previous.references <;> rfl

theorem groupBy_takeOver (current previous : Intent) :
    (takeOver current previous).groupBy =
      if current.groupBy = [] then previous.groupBy else current.groupBy := by
  unfold takeOver
  cases current.groupBy <;> cases previous.groupBy <;> rfl

theorem takeOver_eq_self_of_not_inherited (h : (takeOver current before).inheritedContext = false) :
    takeOver current before = current := by
  have htakes : (current.inheritedContext ||
      (current.references.isEmpty && !before.references.isEmpty) ||
        (current.groupBy.isEmpty && !before.groupBy.isEmpty)) = false := h
  rw [Bool.or_eq_false_iff, Bool.or_eq_false_iff] at htakes
  simp only [takeOver, htakes.1.2, htakes.2, Bool.or_false, Bool.false_eq_true, ↓reduceIte]

/-- A turn that follows a well formed one is well formed. -/
theorem WellFormed.merge (wellFormed : WellFormed columns current)
    (previously : ∀ intent ∈ previous, WellFormed columns intent) :
    WellFormed columns (merge current previous) := by
  cases previous with
  | none => exact wellFormed
  | some before =>
    have before_wellFormed := previously before rfl
    rw [merge_some]
    split
    case isTrue =>
      refine .of_assigned { wellFormed.toNamesOnly with references := ?_, groups := ?_ } ?_ ?_
      case refine_1 =>
        rw [references_takeOver]
        split
        · exact before_wellFormed.references
        · exact wellFormed.references
      case refine_2 =>
        rw [groupBy_takeOver]
        split
        · exact before_wellFormed.groups
        · exact wellFormed.groups
      case refine_3 =>
        rw [Intent.columnNames, references_takeOver]
        split
        · exact before_wellFormed.distinctReferences
        · exact wellFormed.distinctReferences
      case refine_4 =>
        rw [groupBy_takeOver]
        split
        · exact before_wellFormed.distinctGroups
        · exact wellFormed.distinctGroups
    case isFalse hkept =>
      rw [takeOver_eq_self_of_not_inherited ((Bool.not_eq_true _).mp hkept)]
      exact wellFormed

end TableTalk.Question
