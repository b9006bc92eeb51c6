import TableTalk.Options
import TableTalk.Plan.Basic
import TableTalk.Proofs.Json.Intents
import TableTalk.Schema
import TableTalk.Session.Basic

/-!
# Documents that are read back

Schemas, steps, plans, sessions and options, written as JSON and read again. A step
carries its operation as a tag among its fields, so it is kept as content until the
operation is known, and a column is kept until it is known whether it is a name alone.
What is lost on the way is what intents and steps lose: numbers that are not finite, and
dates that conditions compare with.
-/

namespace TableTalk

variable {δ : Type} [Document δ] {carry : Json → δ}

section Schemas

theorem Column.ofContent?_contentOf (column : Column) :
    ofContent? column.toJson.contentOf = some column := by
  obtain ⟨name, declaredType⟩ := column
  have carries := carries_contentOf
  have hmapping (members : List (String × Json)) :
      (Json.contentOf (.object members)).text? = none := rfl
  cases declaredType with
  | none =>
    have own : OwnNames [["name"], ["type"]] ["name"] := by decide
    simp [ofContent?, toJson, hmapping, carries.ofNamed?_object own, List.lookup_cons,
      carries.text]
  | some type =>
    have own : OwnNames [["name"], ["type"]] ["name", "type"] := by decide
    have htype := carries.optional_text (some type)
    rw [Json.ofOption] at htype
    simp [ofContent?, toJson, hmapping, carries.ofNamed?_object own, List.lookup_cons,
      carries.text, htype]

variable (carries : Carries carry)
include carries

theorem Carries.restores_column :
    Restores carry Column.toJson Column.read? fun _ => True := by
  intro column
  rw [Column.read?, carries.content, Option.bind_some]
  exact iff_true_intro column.ofContent?_contentOf

theorem Carries.restores_table : Restores carry Table.toJson Table.read? fun _ => True := by
  rintro ⟨name, columns⟩
  have own : OwnNames [["name", "collection"], ["columns", "fields"]] ["name", "columns"] := by
    decide
  have hcolumns := carries.restores_list carries.restores_column columns
  simp [Table.read?, Table.toJson, carries.read?_object own, List.lookup_cons,
    Option.bind_eq_some_iff, carries.text, hcolumns]

theorem Carries.restores_schema : Restores carry Schema.toJson Schema.read? fun _ => True := by
  rintro ⟨tables⟩
  have own : OwnNames [["tables", "collections"]] ["tables"] := by decide
  have htables := carries.restores_list carries.restores_table tables
  simp [Schema.read?, Schema.toJson, carries.read?_object own, Option.bind_eq_some_iff, htables]

end Schemas

section Steps

theorem Operation.lookup_name (o : Operation) :
    (all.map fun o => (o.name, o)).lookup o.name = some o := by
  cases o <;> decide

/-- The kind of a value is read from its tag, and the members beside the tag are left. -/
theorem Carries.tagged?_object (carries : Carries carry) {κ : Type} {tag name : String} {kind : κ}
    {kinds : List (String × κ)} {members : List (String × Json)}
    (found : kinds.lookup name = some kind) (untagged : tag ∉ members.map Prod.fst) :
    Document.tagged? tag kinds (carry (.object ((tag, .text name) :: members))) =
      some (kind, (Json.object members).contentOf) := by
  have htag : Document.tag? tag (carry (.object ((tag, .text name) :: members))) =
      some (carry (.text name)) := by
    have hothers : (members.map fun member => (Document.Key.name member.1, carry member.2)).filter
        (fun member => member.1 == .name tag) = [] := by
      rw [List.filter_eq_nil_iff]
      intro member hmember
      obtain ⟨other, hother, rfl⟩ := List.mem_map.mp hmember
      simp only [beq_iff_eq, Document.Key.name.injEq]
      rintro rfl
      exact untagged (List.mem_map_of_mem hother)
    simp only [Document.tag?, carries.members, List.map_cons, List.filter_cons, beq_self_eq_true,
      ↓reduceIte, hothers]
  have hrest : Document.untagged tag (Json.contentOf (.object ((tag, .text name) :: members))) =
      Json.contentOf (.object members) := by
    have hothers : (Json.memberContentsOf members).filter (fun entry => entry.1.text? != some tag) =
        Json.memberContentsOf members := by
      rw [List.filter_eq_self, Json.memberContentsOf_eq]
      intro entry hentry
      obtain ⟨other, hother, rfl⟩ := List.mem_map.mp hentry
      rw [bne_iff_ne]
      intro he
      exact untagged (Option.some.inj he ▸ List.mem_map_of_mem hother)
    rw [Json.contentOf, Json.memberContentsOf, Document.untagged, List.filter_cons]
    simp only [Content.text?, bne_self_eq_false, Bool.false_eq_true, ↓reduceIte]
    exact congrArg Content.mapping hothers
  simp only [Document.tagged?, carries.content, htag, carries.key, Document.pick?, found, hrest,
    Option.bind_eq_bind, Option.bind_some, Option.pure_def]

/-- All numbers of the step are finite, and no condition compares with a date. -/
def Step.IsKept : Step → Prop
  | .filter conditions sentiment => (∀ c ∈ conditions, c.IsKept) ∧ ∀ s ∈ sentiment, s.IsKept
  | .statistical slice => slice.IsKept
  | _ => True

theorem Step.ofFields?_contentOf (step : Step) :
    ofFields? step.operation (Json.object step.members).contentOf = some step ↔ step.IsKept := by
  have carries := carries_contentOf
  cases step with
  | select columns =>
    have own : OwnNames [["columns"]] ["columns"] := by decide
    have hcolumns := carries.restores_list carries.restores_text columns
    simp [ofFields?, operation, members, IsKept, carries.read?_object own,
      Option.bind_eq_some_iff, hcolumns]
  | filter conditions sentiment =>
    have own : OwnNames [["conditions"], ["semantic"]] ["conditions", "semantic"] := by decide
    have hconditions := carries.restores_list carries.restores_condition conditions
    have hsentiment :=
      carries.restores_option (fun _ => rfl) carries.restores_sentiment sentiment
    simp [ofFields?, operation, members, IsKept, carries.read?_object own, List.lookup_cons,
      Option.bind_eq_some_iff, hconditions, hsentiment]
  | group columns time =>
    have own : OwnNames [["columns"], ["time"]] ["columns", "time"] := by decide
    have hcolumns := carries.restores_list carries.restores_text columns
    have htime := carries.restores_option (fun _ => rfl) carries.restores_time time
    simp [ofFields?, operation, members, IsKept, carries.read?_object own, List.lookup_cons,
      Option.bind_eq_some_iff, hcolumns, htime]
  | aggregate aggregations =>
    have own : OwnNames [["aggregations"]] ["aggregations"] := by decide
    have haggregations := carries.restores_list carries.restores_aggregation aggregations
    simp [ofFields?, operation, members, IsKept, carries.read?_object own,
      Option.bind_eq_some_iff, haggregations]
  | window request orderBy direction =>
    have own : OwnNames [["request"], ["order_by"], ["direction"]]
      ["request", "order_by", "direction"] := by decide
    simp [ofFields?, operation, members, IsKept, Intent.direction?, carries.read?_object own,
      List.lookup_cons, Option.bind_eq_some_iff, carries.restores_window request,
      carries.optional_text, carries.named _ direction.lookup_name]
  | statistical slice =>
    have own : OwnNames [["filter"]] ["filter"] := by decide
    simp [ofFields?, operation, members, IsKept, carries.read?_object own,
      Option.bind_eq_some_iff, carries.restores_slice slice]
  | order column direction =>
    have own : OwnNames [["column"], ["direction"]] ["column", "direction"] := by decide
    simp [ofFields?, operation, members, IsKept, Intent.direction?, carries.read?_object own,
      List.lookup_cons, carries.optional_text, carries.named _ direction.lookup_name]
  | limit count =>
    have own : OwnNames [["count"]] ["count"] := by decide
    simp [ofFields?, operation, members, IsKept, carries.read?_object own, carries.natural]

theorem Step.operation_notMem_members (step : Step) :
    "operation" ∉ step.members.map Prod.fst := by
  cases step <;> simp [members]

theorem Carries.restores_step (carries : Carries carry) :
    Restores carry Step.toJson Step.read? Step.IsKept := by
  intro step
  rw [Step.read?, Step.toJson,
    carries.tagged?_object step.operation.lookup_name step.operation_notMem_members]
  exact step.ofFields?_contentOf

end Steps

section Plans

def PlannedStep.IsKept (planned : PlannedStep) : Prop :=
  planned.step.IsKept

@[mk_iff]
structure Plan.IsKept (plan : Plan) : Prop where
  steps : ∀ planned ∈ plan.steps, planned.IsKept
  intent : plan.intent.IsKept

def Turn.IsKept (turn : Turn) : Prop :=
  turn.intent.IsKept

@[mk_iff]
structure Session.IsKept (session : Session) : Prop where
  history : ∀ turn ∈ session.history, turn.IsKept
  previous : ∀ intent ∈ session.previous, intent.IsKept

@[mk_iff]
structure Options.IsKept (options : Options) : Prop where
  matchThreshold : Decimal.isFinite options.matchThreshold = true
  outlierMultiplier : Decimal.isFinite options.outlierMultiplier = true

theorem Complexity.lookup_name (c : Complexity) :
    ([simple, moderate, complex].map fun c => (c.name, c)).lookup c.name = some c := by
  cases c <;> decide

variable (carries : Carries carry)
include carries

theorem Carries.restores_planned :
    Restores carry PlannedStep.toJson PlannedStep.read? PlannedStep.IsKept := by
  rintro ⟨step, description⟩
  have own : OwnNames [["config"], ["description"]] ["config", "description"] := by decide
  simp [PlannedStep.read?, PlannedStep.toJson, PlannedStep.IsKept, carries.read?_object own,
    List.lookup_cons, Option.bind_eq_some_iff, carries.text, carries.restores_step step]

theorem Carries.score (score : UInt32) :
    Plan.score? (carry (.ofNat score.toNat)) = some score := by
  rw [Plan.score?, carries.natural, Option.bind_some, if_pos score.toNat_lt, UInt32.ofNat_toNat]

theorem Carries.restores_plan : Restores carry Plan.toJson Plan.read? Plan.IsKept := by
  intro plan
  have own : OwnNames [["steps"], ["intent"], ["complexity"], ["complexity_score"], ["db_type"]]
    ["steps", "intent", "complexity", "complexity_score", "db_type"] := by decide
  have hsteps := carries.restores_list carries.restores_planned plan.steps
  have hintent := carries.restores_intent plan.intent
  have hcomplexity : Complexity.read? (carry (.text plan.complexity.name)) = some plan.complexity :=
    carries.named _ plan.complexity.lookup_name
  obtain ⟨⟩ := plan
  simp [Plan.read?, Plan.toJson, Plan.isKept_iff, carries.read?_object own, List.lookup_cons,
    Option.bind_eq_some_iff, carries.text, carries.score, hcomplexity, hsteps, hintent]

theorem Carries.restores_turn : Restores carry Turn.toJson Turn.read? Turn.IsKept := by
  rintro ⟨question, intent, success, rowCount⟩
  have own : OwnNames [["question"], ["intent"], ["success"], ["row_count"]]
    ["question", "intent", "success", "row_count"] := by decide
  simp [Turn.read?, Turn.toJson, Turn.IsKept, carries.read?_object own, List.lookup_cons,
    Option.bind_eq_some_iff, carries.text, carries.bool, carries.natural,
    carries.restores_intent intent]

theorem Carries.restores_session :
    Restores carry Session.toJson Session.read? Session.IsKept := by
  rintro ⟨history, previous⟩
  have own : OwnNames [["history"], ["previous_intent"]] ["history", "previous_intent"] := by
    decide
  have hhistory := carries.restores_list carries.restores_turn history
  have hprevious := carries.restores_option (fun _ => rfl) carries.restores_intent previous
  simp [Session.read?, Session.toJson, Session.isKept_iff, carries.read?_object own,
    List.lookup_cons, Option.bind_eq_some_iff, hhistory, hprevious]

theorem Carries.restores_clean :
    Restores carry CleanOptions.toJson CleanOptions.read? fun _ => True := by
  rintro ⟨inferTypes, normalizeText, sampleSize, nullTokens⟩
  have own : OwnNames CleanOptions.fieldNames
    ["infer_types", "normalize_text", "sample_size", "null_tokens"] := by decide
  have htokens := carries.restores_list carries.restores_text nullTokens
  simp [CleanOptions.read?, CleanOptions.toJson, carries.read?_object own, List.lookup_cons,
    Option.bind_eq_some_iff, carries.bool, carries.natural, htokens]

theorem Carries.restores_options :
    Restores carry Options.toJson Options.read? Options.IsKept := by
  intro options
  have own : OwnNames Options.fieldNames ["match_threshold", "clean", "outlier_multiplier",
    "rolling_window", "ntile_buckets", "lag_offset", "history_limit"] := by decide
  have hthreshold := carries.restores_float options.matchThreshold
  have hclean := carries.restores_clean options.clean
  have hmultiplier := carries.restores_float options.outlierMultiplier
  obtain ⟨⟩ := options
  simp [Options.read?, Options.toJson, Options.isKept_iff, carries.read?_object own,
    List.lookup_cons, Option.bind_eq_some_iff, carries.natural, hthreshold, hclean, hmultiplier]

end Plans

/-- A document that was written is read back as it was, unless it has numbers that are not finite or
compares with a date. Schemas have neither and always come back. -/
theorem read?_asWritten_iff :
    (∀ schema : Schema, Schema.read? schema.toJson.asWritten = some schema) ∧
    (∀ intent : Intent, Intent.read? intent.toJson.asWritten = some intent ↔ intent.IsKept) ∧
    (∀ step : Step, Step.read? step.toJson.asWritten = some step ↔ step.IsKept) ∧
    (∀ planned : PlannedStep,
      PlannedStep.read? planned.toJson.asWritten = some planned ↔ planned.step.IsKept) ∧
    (∀ plan : Plan, Plan.read? plan.toJson.asWritten = some plan ↔ plan.IsKept) ∧
    (∀ session : Session,
      Session.read? session.toJson.asWritten = some session ↔ session.IsKept) ∧
    ∀ options : Options, Options.read? options.toJson.asWritten = some options ↔ options.IsKept :=
  ⟨fun schema => (carries_asWritten.restores_schema schema).mpr trivial,
    carries_asWritten.restores_intent, carries_asWritten.restores_step,
    carries_asWritten.restores_planned, carries_asWritten.restores_plan,
    carries_asWritten.restores_session, carries_asWritten.restores_options⟩

end TableTalk
