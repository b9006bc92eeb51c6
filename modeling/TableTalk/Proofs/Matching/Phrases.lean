import TableTalk.Proofs.Text.Phrases
import TableTalk.Question.Reading

/-!
# Phrases of whole words

Keywords are looked for in the tokens of a question, with a single space around each. A phrase is
found there just where its words are tokens that follow one another, and never within tokens or
across a part of one. Taking out its first occurrence takes out these tokens, and what is left is
such a text again.
-/

namespace TableTalk.Matching

open Text (spaced Unspaced LeavesOut)

variable {text question : String} {words run other : List String}

/-- A word that can be a token: it is not empty and holds no blank. -/
def IsToken (token : String) : Prop :=
  Text.IsWord token.toList

instance (token : String) : Decidable (IsToken token) :=
  inferInstanceAs (Decidable (Text.IsWord token.toList))

theorem isToken_of_mem_tokens {token : String} (h : token ∈ tokens question) : IsToken token := by
  obtain ⟨word, hword, rfl⟩ := List.mem_map.mp h
  rw [IsToken, String.toList_ofList]
  exact Text.isWord_of_mem_wordsOf hword

theorem unspaced_of_tokens (solid : ∀ word ∈ words, IsToken word) : Unspaced words := by
  intro word hword hspace
  have hblank : Text.isBlank ' ' = false := (solid word hword).solid ' ' hspace
  cases hblank

/-- The text without the first occurrence of a phrase; a space is left in its place. -/
def withoutPhrase (text phrase : String) : String :=
  String.ofList (Text.replaceFirst (" " ++ phrase ++ " ").toList [' '] text.toList)

/-- The phrase that asks for a window function is taken out in this way. -/
theorem windowAndRest_of_find? {phrase : String} {function : WindowFunction}
    (h : Question.windowPhrases.find? (fun entry => hasPhrase text entry.1) =
      some (phrase, function)) :
    Question.windowAndRest text = (some { function }, withoutPhrase text phrase) := by
  rw [Question.windowAndRest, h]
  rfl

/-- A text of words with a single space around each. Where there are no words, there may be one
space more. -/
def Spells (text : String) (words : List String) : Prop :=
  text.toList = ' ' :: spaced words ∨ words = [] ∧ text.toList = [' ', ' ']

theorem toList_padded (some : words ≠ []) : (padded words).toList = ' ' :: spaced words := by
  have hjoined : (" ".intercalate words ++ " ").toList = spaced words := by
    rw [String.toList_append, String.toList_intercalate]
    induction words with
    | nil => exact absurd rfl some
    | cons word words ih =>
      cases words with
      | nil => simp [spaced]
      | cons next words =>
        have hrest := ih (List.cons_ne_nil next words)
        rw [List.map_cons, List.map_cons, List.intercalate_cons_cons, Text.spaced_cons, ← hrest,
          List.map_cons, List.append_assoc, List.append_assoc]
        rfl
  rw [padded, String.append_assoc, String.toList_append, hjoined]
  rfl

theorem spells_padded (words : List String) : Spells (padded words) words := by
  cases words with
  | nil => exact Or.inr ⟨rfl, rfl⟩
  | cons word words => exact Or.inl (toList_padded (List.cons_ne_nil word words))

namespace Spells

variable (h : Spells text words) (solid : ∀ word ∈ words, IsToken word)
include h

/-- No phrase stands between two spaces without a word. -/
theorem eq_spaced_or_not_infix (some : run ≠ []) (solidRun : ∀ word ∈ run, IsToken word) :
    text.toList = ' ' :: spaced words ∨
      words = [] ∧ text.toList = [' ', ' '] ∧ ¬ ' ' :: spaced run <:+: text.toList := by
  refine h.imp_right fun ⟨hnone, htext⟩ => ⟨hnone, htext, fun hinfix => ?_⟩
  obtain ⟨word, others, rfl⟩ := List.exists_cons_of_ne_nil some
  have hword : IsToken word := solidRun word List.mem_cons_self
  obtain ⟨c, cs, hchars⟩ := List.exists_cons_of_ne_nil hword.nonempty
  have hc : Text.isBlank c = false := hword.solid c (hchars ▸ List.mem_cons_self)
  have hmem : c ∈ [' ', ' '] := by
    rw [← htext]
    refine hinfix.subset (List.mem_cons_of_mem _ ?_)
    rw [Text.spaced_cons, hchars]
    exact List.mem_append_left _ List.mem_cons_self
  obtain rfl : c = ' ' := by simpa using hmem
  cases hc

include solid

/-- A phrase is found where its words follow one another. -/
theorem hasPhrase_iff (some : run ≠ []) (solidRun : ∀ word ∈ run, IsToken word) :
    hasPhrase text (" ".intercalate run) = true ↔ run <:+: words := by
  rw [hasPhrase, Text.contains_iff_isInfix]
  change (padded run).toList <:+: text.toList ↔ run <:+: words
  rw [toList_padded some]
  rcases h.eq_spaced_or_not_infix some solidRun with htext | ⟨rfl, -, hnone⟩
  · rw [htext]
    exact Text.space_spaced_infix_iff (unspaced_of_tokens solidRun) (unspaced_of_tokens solid)
  · exact iff_of_false hnone (mt List.infix_nil.mp some)

theorem words_eq : Text.words text = words := by
  have hwords : Text.wordsOf (' ' :: spaced words) = words.map String.toList := by
    rw [Text.wordsOf_cons_of_blank rfl]
    clear h
    induction words with
    | nil => rfl
    | cons word words ih =>
      obtain ⟨hword, solid⟩ := List.forall_mem_cons.mp solid
      rw [Text.spaced_cons, hword.wordsOf_append_cons rfl, ih solid, List.map_cons]
  rcases h with htext | ⟨rfl, htext⟩
  · rw [Text.words, htext, hwords, List.map_map]
    exact List.map_id'' (fun _ => String.ofList_toList) words
  · rw [Text.words, htext]
    rfl

/-- Without a phrase, the text spells the words without its first occurrence. -/
theorem exists_withoutPhrase (some : run ≠ []) (solidRun : ∀ word ∈ run, IsToken word) :
    ∃ rest, LeavesOut run words rest ∧ Spells (withoutPhrase text (" ".intercalate run)) rest := by
  have hphrase : (" " ++ " ".intercalate run ++ " ").toList = ' ' :: spaced run :=
    toList_padded some
  rw [withoutPhrase, hphrase]
  rcases h.eq_spaced_or_not_infix some solidRun with htext | ⟨rfl, htext, hnone⟩
  · obtain ⟨rest, hrest, hreplaced⟩ := Text.exists_replaceFirst_spaced some
      (unspaced_of_tokens solidRun) (unspaced_of_tokens solid)
    refine ⟨rest, hrest, Or.inl ?_⟩
    rw [String.toList_ofList, htext, hreplaced]
  · refine ⟨[], .absent (mt List.infix_nil.mp some), Or.inr ⟨rfl, ?_⟩⟩
    rw [String.toList_ofList, Text.replaceFirst_of_not_infix hnone, htext]

end Spells

/-- A phrase occurs in the text of a question just if its words are tokens that follow one another.
Taking its first occurrence out, as it is done with the phrase that asks for a window function,
leaves the other tokens as they are, and in what is left phrases are found in the same way. -/
theorem phrases_are_runs_of_tokens (question : String) (some : run ≠ [])
    (solid : ∀ token ∈ run, IsToken token) :
    let text := phraseText question
    let phrase := " ".intercalate run
    let rest := withoutPhrase text phrase
    (hasPhrase text phrase = true ↔ run <:+: tokens question) ∧
    LeavesOut run (tokens question) (Text.words rest) ∧
    (∀ others ≠ [], (∀ token ∈ others, IsToken token) →
      (hasPhrase rest (" ".intercalate others) = true ↔ others <:+: Text.words rest)) ∧
    ∀ function, Question.windowPhrases.find? (fun entry => hasPhrase text entry.1) =
        .some (phrase, function) → (Question.windowAndRest text).2 = rest := by
  intro text phrase rest
  have hspells : Spells text (tokens question) := spells_padded (tokens question)
  have htokens : ∀ token ∈ tokens question, IsToken token := fun _ => isToken_of_mem_tokens
  obtain ⟨left, hleft, hrest⟩ := hspells.exists_withoutPhrase htokens some solid
  have hsolid : ∀ token ∈ left, IsToken token := fun token h =>
    htokens token (hleft.sublist.subset h)
  have hwords : Text.words rest = left := hrest.words_eq hsolid
  refine ⟨hspells.hasPhrase_iff htokens some solid, hwords ▸ hleft, ?_, ?_⟩
  · intro others someOthers solidOthers
    rw [hwords]
    exact hrest.hasPhrase_iff hsolid someOthers solidOthers
  · intro function hfound
    rw [windowAndRest_of_find? hfound]

/-- Of two occurrences that follow one another the first is taken out, and the second is found. -/
theorem repeated_phrase_taken_out_once :
    let question := "Running-total, running TOTAL by day"
    let run := ["running", "total"]
    let rest := withoutPhrase (phraseText question) (" ".intercalate run)
    run ≠ [] ∧ (∀ token ∈ run, IsToken token) ∧
    tokens question = ["running", "total", "running", "total", "by", "day"] ∧
    hasPhrase (phraseText question) "running total" = true ∧
    Text.words rest = ["running", "total", "by", "day"] ∧
    LeavesOut run (tokens question) (Text.words rest) ∧
    hasPhrase rest "running total" = true ∧ hasPhrase rest "total running" = false ∧
    (Question.windowAndRest (phraseText question)).2 = rest := by
  intro question run rest
  have some : run ≠ [] := by decide
  have solid : ∀ token ∈ run, IsToken token := by decide
  have htokens : tokens question = ["running", "total", "running", "total", "by", "day"] := by
    decide +kernel
  have hwords : Text.words rest = ["running", "total", "by", "day"] := by decide +kernel
  have hfound : Question.windowPhrases.find? (fun entry => hasPhrase (phraseText question) entry.1) =
      Option.some ("running total", .runningTotal) := by decide +kernel
  have hother : ∀ token ∈ ["total", "running"], IsToken token := by decide
  obtain ⟨hphrase, hleft, hagain, hwindow⟩ := phrases_are_runs_of_tokens question some solid
  refine ⟨some, solid, htokens, hphrase.mpr ?_, hwords, hleft, (hagain run some solid).mpr ?_, ?_,
    hwindow _ hfound⟩
  · rw [htokens]
    decide
  · rw [hwords]
    decide
  · rw [Bool.eq_false_iff]
    refine mt (hagain ["total", "running"] (by decide) hother).mp ?_
    rw [hwords]
    decide

end TableTalk.Matching
