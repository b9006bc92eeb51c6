import TableTalk.Proofs.Completion
import TableTalk.Proofs.Session.Conversations

/-!
# What conversations pass on

A turn takes over from the turn before what it lacks and changes nothing that it has.
What a turn that was carried out refers to and groups by is therefore never lost: all
later turns of the conversation refer to some columns, or group by some, as well.
-/

namespace TableTalk

namespace Question

/-- The later intent refers to columns if the earlier one does, and has groups if that has. -/
structure CarriesOn (earlier later : Intent) : Prop where
  references : earlier.references ≠ [] → later.references ≠ []
  groups : earlier.groupBy ≠ [] → later.groupBy ≠ []

variable {earlier middle later : Intent}

theorem CarriesOn.trans (first : CarriesOn earlier middle) (second : CarriesOn middle later) :
    CarriesOn earlier later where
  references := second.references ∘ first.references
  groups := second.groups ∘ first.groups

theorem carriesOn_merge (current previous : Intent) :
    CarriesOn previous (merge current (some previous)) := by
  constructor
  · exact fun hprevious hnone => hprevious (references_merge_eq_nil_iff.mp hnone).2
  · exact fun hprevious hnone => hprevious (groupBy_merge_eq_nil_iff.mp hnone).2

end Question

namespace Session

open Question (CarriesOn Completes)

variable {session : Session} {context : Intent}

/-- How questions are answered one after the other, each in a setting of its own. -/
def answers (session : Session) : List (Setting × String) → List Outcome
  | [] => []
  | (setting, question) :: asked =>
    let (next, outcome) := setting.ask session question
    outcome :: answers next asked

theorem answers_cons (session : Session) (setting : Setting) (question : String)
    (asked : List (Setting × String)) :
    session.answers ((setting, question) :: asked) =
      (setting.ask session question).2 :: (setting.ask session question).1.answers asked := rfl

theorem carriesOn_ask (h : session.previous = some context) (setting : Setting)
    (question : String) : CarriesOn context (setting.ask session question).2.intent := by
  rw [Setting.intent_ask, h]
  exact Question.carriesOn_merge _ context

/-- A turn leaves a context that carries on the one before. -/
theorem exists_previous_ask (h : session.previous = some context) (setting : Setting)
    (question : String) :
    ∃ next, (setting.ask session question).1.previous = some next ∧ CarriesOn context next := by
  rw [Setting.previous_ask]
  split
  · exact ⟨context, h, id, id⟩
  · exact ⟨_, rfl, carriesOn_ask h setting question⟩

/-- All turns of a conversation carry on the context in which it begins. -/
theorem carriesOn_answers (h : session.previous = some context) (asked : List (Setting × String)) :
    ∀ outcome ∈ session.answers asked, CarriesOn context outcome.intent := by
  induction asked generalizing session context with
  | nil => exact fun _ hmem => (List.not_mem_nil hmem).elim
  | cons call asked ih =>
    obtain ⟨setting, question⟩ := call
    obtain ⟨next, hnext, hcarries⟩ := exists_previous_ask h setting question
    rw [answers_cons]
    exact List.forall_mem_cons.mpr
      ⟨carriesOn_ask h setting question, fun outcome hmem => hcarries.trans (ih hnext outcome hmem)⟩

/-- All turns after one that was carried out carry it on. -/
theorem pairwise_answers (session : Session) (asked : List (Setting × String)) :
    (session.answers asked).Pairwise fun earlier later =>
      earlier.isClarification = false → CarriesOn earlier.intent later.intent := by
  induction asked generalizing session with
  | nil => exact .nil
  | cons call asked ih =>
    obtain ⟨setting, question⟩ := call
    rw [answers_cons]
    refine .cons (fun later hlater hexecuted => ?_) (ih (setting.ask session question).1)
    -- the turn is the context of the rest of the conversation
    refine carriesOn_answers ?_ asked later hlater
    rw [Setting.previous_ask, hexecuted]
    rfl

/-- Merging with the turn before only adds, and adds all at once: it keeps what the intent says and
every column that has a role, takes over columns and groups exactly where there are none, and
merging again changes nothing. So a conversation never loses the columns and the groups of a turn
that was carried out: no later turn is without columns, or without groups. -/
theorem merging_only_adds :
    (∀ current previous : Intent,
      let merged := Question.merge current (some previous)
      Completes current merged ∧
        merged.references =
          (if current.references = [] then previous.references else current.references) ∧
        merged.groupBy = (if current.groupBy = [] then previous.groupBy else current.groupBy) ∧
        Question.merge merged (some previous) = merged) ∧
      ∀ (session : Session) (asked : List (Setting × String)),
        (session.answers asked).Pairwise fun earlier later =>
          earlier.isClarification = false → CarriesOn earlier.intent later.intent := by
  constructor
  · intro current previous merged
    exact ⟨Question.completes_merge current previous, Question.references_merge current previous,
      Question.groupBy_merge current previous, Question.merge_merge current previous⟩
  · exact pairwise_answers

/-- A follow-up that names nothing but a calculation is grouped like the question before it. -/
theorem median_is_grouped_by_city :
    let averaged := Setting.citySales.ask {} "average price by city"
    let followed := Setting.citySales.ask averaged.1 "now the median"
    averaged.2.isClarification = false ∧ averaged.2.intent.groupBy = ["city"] ∧
      followed.2.intent.groupBy ≠ [] := by
  intro averaged followed
  have hexecuted : averaged.2.isClarification = false := by decide +kernel
  have hgroups : averaged.2.intent.groupBy = ["city"] := by decide +kernel
  have hpairs := merging_only_adds.2 {}
    [(Setting.citySales, "average price by city"), (Setting.citySales, "now the median")]
  rw [answers_cons, answers_cons, List.pairwise_cons] at hpairs
  have hcarries := hpairs.1 followed.2 List.mem_cons_self hexecuted
  exact ⟨hexecuted, hgroups, hcarries.groups (by rw [hgroups]; decide)⟩

end Session

end TableTalk
