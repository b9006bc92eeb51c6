import Mathlib.Data.List.Induction
import TableTalk.Session.Basic

/-!
# What sessions remember

The history of a session is a window on the turns that were recorded: the latest ones, as many as
the limit allows, and the turn at hand in any case. The context is kept apart from the history. It
is the intent of the latest turn that did not have to be clarified, however long ago that turn was.
-/

namespace TableTalk

namespace Session

variable {limit : ℕ} {turns : List Turn} {session : Session}

/-- A turn is the latest one that did not have to be clarified. -/
def IsLatestClear (turns : List Turn) (turn : Turn) : Prop :=
  ∃ before after, turns = before ++ turn :: after ∧ turn.intent.clarificationNeeded = false ∧
    ∀ later ∈ after, later.intent.clarificationNeeded = true

/-- What a session holds of the turns that were recorded in it. -/
structure Recalls (limit : ℕ) (turns : List Turn) (session : Session) : Prop where
  window : session.history <:+ turns
  length : session.history.length = min turns.length (max limit 1)
  context : ∀ intent, session.previous = some intent ↔
    ∃ turn, IsLatestClear turns turn ∧ turn.intent = intent
  unset : session.previous = none ↔ ∀ turn ∈ turns, turn.intent.clarificationNeeded = true

theorem lastTurns_suffix (count : ℕ) (turns : List Turn) : lastTurns count turns <:+ turns :=
  List.drop_suffix _ turns

theorem length_lastTurns (count : ℕ) (turns : List Turn) :
    (lastTurns count turns).length = min turns.length count := by
  rw [lastTurns, List.length_drop]
  omega

section Contexts

theorem isLatestClear_concat_of_clear {turn other : Turn}
    (clear : turn.intent.clarificationNeeded = false) :
    IsLatestClear (turns ++ [turn]) other ↔ other = turn := by
  constructor
  · rintro ⟨before, after, hsplit, -, hafter⟩
    cases after using List.reverseRecOn with
    | nil => exact (List.singleton_inj.mp (List.append_inj' hsplit rfl).2).symm
    | append_singleton after last =>
      -- the turn that was recorded last would have to be clarified
      rw [← List.cons_append, ← List.append_assoc] at hsplit
      obtain rfl := List.singleton_inj.mp (List.append_inj' hsplit rfl).2
      have hlast := hafter turn (List.mem_append_right after (List.mem_singleton_self turn))
      rw [clear] at hlast
      cases hlast
  · rintro rfl
    exact ⟨turns, [], rfl, clear, fun _ h => (List.not_mem_nil h).elim⟩

theorem isLatestClear_concat_of_clarified {turn other : Turn}
    (clarified : turn.intent.clarificationNeeded = true) :
    IsLatestClear (turns ++ [turn]) other ↔ IsLatestClear turns other := by
  constructor
  · rintro ⟨before, after, hsplit, hother, hafter⟩
    cases after using List.reverseRecOn with
    | nil =>
      obtain rfl := List.singleton_inj.mp (List.append_inj' hsplit rfl).2
      rw [clarified] at hother
      cases hother
    | append_singleton after last =>
      rw [← List.cons_append, ← List.append_assoc] at hsplit
      exact ⟨before, after, (List.append_inj' hsplit rfl).1, hother, fun later hlater =>
        hafter later (List.mem_append_left _ hlater)⟩
  · rintro ⟨before, after, rfl, hother, hafter⟩
    refine ⟨before, after ++ [turn], by simp, hother, fun later hlater => ?_⟩
    rcases List.mem_append.mp hlater with hlater | hlater
    · exact hafter later hlater
    · exact List.mem_singleton.mp hlater ▸ clarified

end Contexts

theorem recalls_new (limit : ℕ) : Recalls limit [] {} where
  window := List.suffix_refl []
  length := (Nat.zero_min _).symm
  context intent := by
    refine iff_of_false (by simp) ?_
    rintro ⟨turn, ⟨before, after, hsplit, -⟩, -⟩
    exact absurd hsplit (by simp)
  unset := by simp

/-- Recording a turn moves the window on, and the context if the turn is clear. -/
theorem Recalls.record (h : Recalls limit turns session) (turn : Turn) :
    Recalls limit (turns ++ [turn]) (session.record turn limit) where
  window := by
    obtain ⟨dropped, hdropped⟩ := h.window
    have hwindow : session.history ++ [turn] <:+ turns ++ [turn] :=
      ⟨dropped, by rw [← List.append_assoc, hdropped]⟩
    exact (lastTurns_suffix _ _).trans hwindow
  length := by
    have hlength := h.length
    rw [Session.record, length_lastTurns, List.length_append, List.length_append, hlength,
      List.length_singleton]
    omega
  context intent := by
    rw [Session.record]
    cases hturn : turn.intent.clarificationNeeded with
    | true =>
      simp only [isLatestClear_concat_of_clarified hturn]
      exact h.context intent
    | false => simp [isLatestClear_concat_of_clear hturn]
  unset := by
    rw [Session.record]
    cases hturn : turn.intent.clarificationNeeded with
    | true => simpa [hturn, or_imp, forall_and] using h.unset
    | false =>
      refine iff_of_false (by simp) fun hall => ?_
      have hlast := hall turn (by simp)
      rw [hturn] at hlast
      cases hlast

theorem recordAll_concat (session : Session) (turns : List Turn) (turn : Turn) (limit : ℕ) :
    session.recordAll (turns ++ [turn]) limit =
      (session.recordAll turns limit).record turn limit := by
  rw [recordAll, List.foldl_append]
  rfl

/-- Whatever turns are recorded in a new session, the history is the latest of them in their order,
as many as the limit allows but at least one, and the context is the intent of the latest turn that
did not have to be clarified, whether or not the history still has that turn. Without such a turn
there is no context. -/
theorem histories_are_latest_turns (turns : List Turn) (limit : ℕ) :
    Recalls limit turns (recordAll {} turns limit) := by
  induction turns using List.reverseRecOn with
  | nil => exact recalls_new limit
  | append_singleton turns turn ih =>
    rw [recordAll_concat]
    exact ih.record turn

end Session

end TableTalk
