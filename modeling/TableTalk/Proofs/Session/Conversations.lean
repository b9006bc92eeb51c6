import TableTalk.Proofs.Merging
import TableTalk.Session.Outcome

/-!
# Conversations

A turn of a conversation depends on the turns before it through one intent only: that
of the latest turn that was carried out. The turns that a session remembers besides do
not matter, and neither do turns that ended in a clarification. What holds of every
reading and is kept when a turn takes over from the one before holds of all turns: they
name columns of the schema only.
-/

namespace TableTalk

namespace Outcome

/-- The intent that was answered. -/
def intent : Outcome → Intent
  | clarification intent _ => intent
  | executed plan _ => plan.intent

/-- Whether the answer is a question back. -/
def isClarification : Outcome → Bool
  | clarification _ _ => true
  | executed _ _ => false

end Outcome

namespace Setting

variable {setting : Setting} {session other : Session} {question : String}
  {questions : List String} {columns : List String}

section Turns

theorem intent_turn (question : String) (intent : Intent) (outcome : Outcome) :
    (turn question intent outcome).intent = intent := by
  cases outcome <;> rfl

theorem intent_respond (setting : Setting) (intent : Intent) :
    (setting.respond intent).intent = intent := by
  unfold respond
  split <;> rfl

theorem isClarification_respond (setting : Setting) (intent : Intent) :
    (setting.respond intent).isClarification = intent.clarificationNeeded := by
  unfold respond
  split
  case isTrue h => exact h.symm
  case isFalse h => exact (Bool.not_eq_true _ ▸ h).symm

theorem ask_snd (setting : Setting) (session : Session) (question : String) :
    (setting.ask session question).2 =
      setting.respond (setting.read question session.previous) := rfl

theorem intent_ask (setting : Setting) (session : Session) (question : String) :
    (setting.ask session question).2.intent = setting.read question session.previous :=
  intent_respond setting _

theorem isClarification_ask (setting : Setting) (session : Session) (question : String) :
    (setting.ask session question).2.isClarification =
      (setting.ask session question).2.intent.clarificationNeeded := by
  rw [intent_ask, ask_snd, isClarification_respond]

/-- The context after a turn is the intent of the turn, or the context before it if the answer was a
clarification. -/
theorem previous_ask (setting : Setting) (session : Session) (question : String) :
    (setting.ask session question).1.previous =
      if (setting.ask session question).2.isClarification then session.previous
      else some (setting.ask session question).2.intent := by
  rw [isClarification_ask, intent_ask]
  simp only [ask, Session.record, intent_turn]

/-- Two sessions with one context answer a question alike and have one context afterwards. -/
theorem ask_agrees (setting : Setting) (h : other.previous = session.previous) (question : String) :
    (setting.ask other question).2 = (setting.ask session question).2 ∧
      (setting.ask other question).1.previous = (setting.ask session question).1.previous := by
  have houtcome : (setting.ask other question).2 = (setting.ask session question).2 := by
    rw [ask_snd, ask_snd, h]
  exact ⟨houtcome, by rw [previous_ask, previous_ask, houtcome, h]⟩

end Turns

section Traces

/-- A conversation with the same turns, in their order, but for some that were answered with a
clarification. -/
inductive Shortened : List (String × Outcome) → List (String × Outcome) → Prop
  | done : Shortened [] []
  | kept {turns others : List (String × Outcome)} (turn : String × Outcome)
    (rest : Shortened turns others) : Shortened (turn :: turns) (turn :: others)
  | dropped {turns others : List (String × Outcome)} (turn : String × Outcome)
    (clarified : turn.2.isClarification = true) (rest : Shortened turns others) :
    Shortened (turn :: turns) others

theorem Shortened.refl (turns : List (String × Outcome)) : Shortened turns turns := by
  induction turns with
  | nil => exact .done
  | cons turn turns ih => exact .kept turn ih

/-- The questions of a conversation and how they are answered. -/
def turns (setting : Setting) (session : Session) (questions : List String) :
    List (String × Outcome) :=
  questions.zip (setting.askAll session questions).2

theorem length_askAll (setting : Setting) (session : Session) (questions : List String) :
    (setting.askAll session questions).2.length = questions.length := by
  induction questions generalizing session with
  | nil => rfl
  | cons question questions ih => exact congrArg (· + 1) (ih (setting.ask session question).1)

theorem map_snd_turns (setting : Setting) (session : Session) (questions : List String) :
    (setting.turns session questions).map Prod.snd = (setting.askAll session questions).2 :=
  List.map_snd_zip (Nat.le_of_eq (length_askAll setting session questions))

theorem map_fst_turns (setting : Setting) (session : Session) (questions : List String) :
    (setting.turns session questions).map Prod.fst = questions :=
  List.map_fst_zip (Nat.le_of_eq (length_askAll setting session questions).symm)

theorem turns_cons (setting : Setting) (session : Session) (question : String)
    (questions : List String) :
    setting.turns session (question :: questions) =
      (question, (setting.ask session question).2) ::
        setting.turns (setting.ask session question).1 questions := rfl

/-- The turns that are left of a conversation go as they went, from any session with its context,
and lead to its context. -/
theorem askAll_shortened {left : List (String × Outcome)} (h : other.previous = session.previous)
    (shortened : Shortened (setting.turns session questions) left) :
    (setting.askAll other (left.map Prod.fst)).2 = left.map Prod.snd ∧
      (setting.askAll other (left.map Prod.fst)).1.previous =
        (setting.askAll session questions).1.previous := by
  induction questions generalizing session other left with
  | nil =>
    cases shortened
    exact ⟨rfl, h⟩
  | cons question questions ih =>
    rw [turns_cons] at shortened
    cases shortened with
    | kept turn rest =>
      obtain ⟨houtcome, hprevious⟩ := ask_agrees setting h question
      obtain ⟨houtcomes, hfinal⟩ := ih hprevious rest
      simp only [List.map_cons, askAll]
      exact ⟨by rw [houtcome, houtcomes], hfinal⟩
    | dropped turn clarified rest =>
      have hprevious : other.previous = (setting.ask session question).1.previous := by
        rw [previous_ask, if_pos clarified]
        exact h
      exact ih hprevious rest

/-- Questions that were answered with a clarification can be left out of a conversation: all others
are answered as before, and the next one will be. More generally, sessions with one context answer
all further questions alike, whatever else they remember. -/
theorem clarifications_leave_no_trace (setting : Setting) (session : Session)
    (questions : List String) :
    (∀ left, Shortened (setting.turns session questions) left →
      (setting.askAll session (left.map Prod.fst)).2 = left.map Prod.snd ∧
        (setting.askAll session (left.map Prod.fst)).1.previous =
          (setting.askAll session questions).1.previous) ∧
    ∀ other : Session, other.previous = session.previous →
      (setting.askAll other questions).2 = (setting.askAll session questions).2 ∧
        (setting.askAll other questions).1.previous =
          (setting.askAll session questions).1.previous := by
  constructor
  · intro left shortened
    exact askAll_shortened rfl shortened
  · intro other h
    have hall := askAll_shortened h (.refl (setting.turns session questions))
    rwa [map_fst_turns, map_snd_turns] at hall

/-- Questions about the sales of two cities. -/
def citySales : Setting :=
  { schema := .singleTable "sales" ["city", "price"]
    dataset :=
      [.ofCells [("city", .text "Oslo"), ("price", .integer 3)],
        .ofCells [("city", .text "Rome"), ("price", .integer 4)]]
    database := "memory" }

/-- A greeting between two questions can be left out, and the turn in front of it can be forgotten
as long as its intent is not. -/
theorem greeting_leaves_no_trace :
    let counted := citySales.ask {} "how many rows"
    let greeted := citySales.ask counted.1 "hello"
    let averaged := citySales.ask greeted.1 "average price by city"
    let forgetful : Session := { previous := counted.1.previous }
    greeted.2.isClarification = true ∧ counted.1.previous.isSome = true ∧
      (citySales.askAll {} ["how many rows", "average price by city"]).2 =
        [counted.2, averaged.2] ∧
      (citySales.askAll forgetful ["hello", "average price by city"]).2 =
        [greeted.2, averaged.2] := by
  intro counted greeted averaged
  have hgreeted : greeted.2.isClarification = true := by decide +kernel
  have hcounted : counted.1.previous.isSome = true := by decide +kernel
  -- the turns of both conversations, written out
  have hturns : citySales.turns {} ["how many rows", "hello", "average price by city"] =
      [("how many rows", counted.2), ("hello", greeted.2),
        ("average price by city", averaged.2)] := by
    rw [turns_cons, turns_cons, turns_cons]
    rfl
  have hrest : citySales.turns counted.1 ["hello", "average price by city"] =
      [("hello", greeted.2), ("average price by city", averaged.2)] := by
    rw [turns_cons, turns_cons]
    rfl
  clear_value averaged greeted counted
  have hshortened : Shortened
      (citySales.turns {} ["how many rows", "hello", "average price by city"])
      [("how many rows", counted.2), ("average price by city", averaged.2)] := by
    rw [hturns]
    exact .kept _ (.dropped _ hgreeted (.kept _ .done))
  intro forgetful
  obtain ⟨hleft, -⟩ := clarifications_leave_no_trace citySales {}
    ["how many rows", "hello", "average price by city"]
  obtain ⟨-, hforget⟩ := clarifications_leave_no_trace citySales counted.1
    ["hello", "average price by city"]
  refine ⟨hgreeted, hcounted, (hleft _ hshortened).1, ?_⟩
  rw [(hforget forgetful rfl).1, ← map_snd_turns, hrest]
  rfl

end Traces

section Columns

/-- An outcome for a well formed intent, which is a clarification exactly if the intent neither
refers to a column nor asks for a calculation. -/
structure IsWellFormed (columns : List String) (outcome : Outcome) : Prop where
  intent : Question.WellFormed columns outcome.intent
  clarification : outcome.isClarification = true ↔
    outcome.intent.references = [] ∧ outcome.intent.aggregations = []

/-- Whatever a session remembers is well formed. -/
structure Remembers (columns : List String) (session : Session) : Prop where
  context : ∀ intent ∈ session.previous, Question.WellFormed columns intent
  turns : ∀ turn ∈ session.history, Question.WellFormed columns turn.intent

theorem isWellFormed_ask (remembers : Remembers setting.schema.columnNames session)
    (question : String) :
    IsWellFormed setting.schema.columnNames (setting.ask session question).2 := by
  have hread : Question.WellFormed setting.schema.columnNames
      (setting.ask session question).2.intent := by
    rw [intent_ask]
    exact (Question.wellFormed_read _ _ _).merge remembers.context
  refine ⟨hread, ?_⟩
  rw [isClarification_ask]
  exact hread.clarification

theorem remembers_ask (remembers : Remembers setting.schema.columnNames session)
    (question : String) :
    Remembers setting.schema.columnNames (setting.ask session question).1 := by
  have hnew := (isWellFormed_ask remembers question).intent
  constructor
  · intro intent h
    rw [previous_ask] at h
    split at h
    · exact remembers.context intent h
    · exact Option.mem_some.mp h ▸ hnew
  · intro turn h
    rcases List.mem_append.mp (List.mem_of_mem_drop h) with h | h
    · exact remembers.turns turn h
    · rw [List.mem_singleton.mp h, intent_turn, ← intent_ask]
      exact hnew

theorem isWellFormed_askAll (remembers : Remembers setting.schema.columnNames session)
    (questions : List String) :
    (∀ outcome ∈ (setting.askAll session questions).2,
        IsWellFormed setting.schema.columnNames outcome) ∧
      Remembers setting.schema.columnNames (setting.askAll session questions).1 := by
  induction questions generalizing session with
  | nil => exact ⟨fun outcome h => (List.not_mem_nil h).elim, remembers⟩
  | cons question questions ih =>
    obtain ⟨hrest, hfinal⟩ := ih (remembers_ask remembers question)
    exact ⟨List.forall_mem_cons.mpr ⟨isWellFormed_ask remembers question, hrest⟩, hfinal⟩

theorem remembers_new (columns : List String) : Remembers columns {} where
  context _ h := by cases h
  turns _ h := by cases h

/-- In a new session every question is answered. In every turn of the conversation the intent names
columns of the schema in all of its roles, refers to no column twice and groups by none twice, and
it is sent back for a clarification exactly if it neither refers to a column nor asks for a
calculation. The same holds of what the session remembers at the end. -/
theorem turns_name_schema_columns (setting : Setting) (questions : List String) :
    let (session, outcomes) := setting.askAll {} questions
    outcomes.length = questions.length ∧
      (∀ outcome ∈ outcomes, IsWellFormed setting.schema.columnNames outcome) ∧
      Remembers setting.schema.columnNames session := by
  dsimp only
  obtain ⟨houtcomes, hsession⟩ := isWellFormed_askAll (remembers_new _) questions
  exact ⟨length_askAll setting {} questions, houtcomes, hsession⟩

end Columns

end Setting

end TableTalk
