import TableTalk.Proofs.Text.Words

/-!
# Runs of words in a text

Words that stand in a text with a single space around each. A phrase with a space at both ends
occurs in such a text just where its words follow one another as whole words, and where its first
occurrence is replaced by a space, the other words stay as they are, again with single spaces
around them.
-/

namespace TableTalk.Text

variable {run words rest : List String} {word : String}

/-- Words with a space behind each. -/
def spaced (words : List String) : List Char :=
  words.flatMap fun word => word.toList ++ [' ']

theorem spaced_cons (word : String) (words : List String) :
    spaced (word :: words) = word.toList ++ ' ' :: spaced words := by
  rw [spaced, List.flatMap_cons, List.append_assoc]
  rfl

theorem spaced_append (words others : List String) :
    spaced (words ++ others) = spaced words ++ spaced others :=
  List.flatMap_append

theorem spaced_ne_nil (some : words ≠ []) : spaced words ≠ [] := by
  obtain ⟨word, others, rfl⟩ := List.exists_cons_of_ne_nil some
  simp [spaced_cons]

/-- None of the words holds a space. -/
def Unspaced (words : List String) : Prop :=
  ∀ word ∈ words, ' ' ∉ word.toList

/-- Up to a character that neither of them holds, two lists agree as wholes. -/
theorem prefix_append_cons_iff {c : Char} {front other cs ds : List Char} (hfront : c ∉ front)
    (hother : c ∉ other) : front ++ c :: cs <+: other ++ c :: ds ↔ front = other ∧ cs <+: ds := by
  induction front generalizing other with
  | nil =>
    cases other with
    | nil => simp
    | cons d other =>
      rw [List.mem_cons, not_or] at hother
      simp [hother.1]
  | cons e front ih =>
    rw [List.mem_cons, not_or] at hfront
    cases other with
    | nil => simp [Ne.symm hfront.1]
    | cons d other =>
      rw [List.mem_cons, not_or] at hother
      rw [List.cons_append, List.cons_append, List.cons_prefix_cons, ih hfront.2 hother.2,
        List.cons.injEq, and_assoc]

/-- What begins with a character occurs behind a list without it, or not at all. -/
theorem cons_infix_append_iff {c : Char} {part front cs : List Char} (h : c ∉ front) :
    c :: part <:+: front ++ cs ↔ c :: part <:+: cs := by
  induction front with
  | nil => rfl
  | cons d front ih =>
    rw [List.mem_cons, not_or] at h
    rw [List.cons_append, List.infix_cons_iff, List.cons_prefix_cons, ih h.2]
    exact or_iff_right fun hprefix => h.1 hprefix.1

section Occurrences

variable (plainRun : Unspaced run) (plain : Unspaced words)
include plainRun plain

theorem spaced_prefix_iff : spaced run <+: spaced words ↔ run <+: words := by
  induction run generalizing words with
  | nil => simp [spaced]
  | cons first run ih =>
    cases words with
    | nil => simp [spaced]
    | cons word words =>
      obtain ⟨hfirst, plainRun⟩ := List.forall_mem_cons.mp plainRun
      obtain ⟨hword, plain⟩ := List.forall_mem_cons.mp plain
      rw [spaced_cons, spaced_cons, prefix_append_cons_iff hfirst hword, ih plainRun plain,
        List.cons_prefix_cons, String.toList_inj]

/-- A phrase with spaces around it occurs where its words follow one another. -/
theorem space_spaced_infix_iff : ' ' :: spaced run <:+: ' ' :: spaced words ↔ run <:+: words := by
  induction words with
  | nil =>
    rw [List.infix_cons_iff, List.cons_prefix_cons, spaced_prefix_iff plainRun plain]
    simp [spaced]
  | cons word words ih =>
    obtain ⟨hword, plainWords⟩ := List.forall_mem_cons.mp plain
    rw [List.infix_cons_iff, List.cons_prefix_cons, spaced_prefix_iff plainRun plain, spaced_cons,
      cons_infix_append_iff hword, ih plainWords, List.infix_cons_iff]
    simp

end Occurrences

section Removal

/-- What is left of some words without the first occurrence of a run of adjacent ones. -/
inductive LeavesOut (run words : List String) : List String → Prop
  | absent (h : ¬ run <:+: words) : LeavesOut run words words
  | first (front after : List String) (split : words = front ++ run ++ after)
    (earliest : ∀ earlier later, words = earlier ++ run ++ later → front.length ≤ earlier.length) :
    LeavesOut run words (front ++ after)

theorem LeavesOut.sublist (h : LeavesOut run words rest) : rest.Sublist words := by
  cases h with
  | absent => exact List.Sublist.refl words
  | first front after split =>
    rw [split]
    exact (List.sublist_append_left front run).append_right after

theorem LeavesOut.of_begins {after : List String} (split : words = run ++ after) :
    LeavesOut run words after :=
  .first [] after split fun _ _ _ => Nat.zero_le _

/-- A word at which the run does not begin stays in front of what is left of the others. -/
theorem LeavesOut.cons (h : LeavesOut run words rest) (absent : ¬ run <+: word :: words) :
    LeavesOut run (word :: words) (word :: rest) := by
  cases h with
  | absent hwords =>
    refine .absent fun hinfix => ?_
    exact (List.infix_cons_iff.mp hinfix).elim absent hwords
  | first front after split earliest =>
    refine .first (word :: front) after (by rw [split]; rfl) fun earlier later hsplit => ?_
    cases earlier with
    | nil => exact absurd ⟨later, hsplit.symm⟩ absent
    | cons other earlier =>
      obtain ⟨-, hwords⟩ := List.cons.inj hsplit
      exact Nat.succ_le_succ (earliest earlier later hwords)

theorem replaceFirst_append {c : Char} {old new front cs : List Char} (h : c ∉ front) :
    replaceFirst (c :: old) new (front ++ cs) = front ++ replaceFirst (c :: old) new cs := by
  induction front with
  | nil => rfl
  | cons d front ih =>
    rw [List.mem_cons, not_or] at h
    have hnone : (c :: old).isPrefixOf (d :: (front ++ cs)) = false := by
      simp [List.isPrefixOf, h.1]
    rw [List.cons_append, replaceFirst, hnone, if_neg Bool.false_ne_true, ih h.2, List.cons_append]

theorem replaceFirst_of_begins {c : Char} {old new cs after : List Char}
    (split : c :: cs = old ++ after) : replaceFirst old new (c :: cs) = new ++ after := by
  have hprefix : old.isPrefixOf (c :: cs) = true :=
    List.isPrefixOf_iff_prefix.mpr ⟨after, split.symm⟩
  rw [replaceFirst, if_pos hprefix, split, List.drop_left]

theorem replaceFirst_of_not_begins {c : Char} {old new cs : List Char} (h : ¬ old <+: c :: cs) :
    replaceFirst old new (c :: cs) = c :: replaceFirst old new cs := by
  rw [replaceFirst, if_neg (mt List.isPrefixOf_iff_prefix.mp h)]

theorem replaceFirst_of_not_infix {old new cs : List Char} (h : ¬ old <:+: cs) :
    replaceFirst old new cs = cs := by
  induction cs with
  | nil => rfl
  | cons c cs ih =>
    rw [List.infix_cons_iff, not_or] at h
    rw [replaceFirst_of_not_begins h.1, ih h.2]

/-- A phrase that is replaced by a space leaves the other words as they are. -/
theorem exists_replaceFirst_spaced (some : run ≠ []) (plainRun : Unspaced run)
    (plain : Unspaced words) : ∃ rest, LeavesOut run words rest ∧
      replaceFirst (' ' :: spaced run) [' '] (' ' :: spaced words) = ' ' :: spaced rest := by
  induction words with
  | nil =>
    have hnone : ¬ ' ' :: spaced run <+: [' '] := by
      rw [List.cons_prefix_cons, List.prefix_nil]
      exact fun h => spaced_ne_nil some h.2
    refine ⟨[], .absent (mt List.infix_nil.mp some), ?_⟩
    exact replaceFirst_of_not_begins hnone
  | cons word words ih =>
    have hbegins : ' ' :: spaced run <+: ' ' :: spaced (word :: words) ↔ run <+: word :: words := by
      rw [List.cons_prefix_cons, spaced_prefix_iff plainRun plain, and_iff_right rfl]
    by_cases hprefix : run <+: word :: words
    · obtain ⟨after, hsplit⟩ := hprefix
      refine ⟨after, .of_begins hsplit.symm, ?_⟩
      exact replaceFirst_of_begins (by rw [← hsplit, spaced_append]; rfl)
    · obtain ⟨hword, plainWords⟩ := List.forall_mem_cons.mp plain
      obtain ⟨rest, hrest, hreplaced⟩ := ih plainWords
      refine ⟨word :: rest, hrest.cons hprefix, ?_⟩
      rw [replaceFirst_of_not_begins (mt hbegins.mp hprefix), spaced_cons,
        replaceFirst_append hword, hreplaced, spaced_cons]

end Removal

end TableTalk.Text
