import TableTalk.Proofs.Text.Replacing

/-!
# Words and single spaces

Words are parts of their text, and together they are the text without its blanks. Joined
by single spaces they hold no other blanks, and what stands in the joined text without a
space stands in one of the words.
-/

namespace TableTalk.Text

variable {p : Char → Bool} {cs part word : List Char} {words : List (List Char)}

section Splitting

theorem splitWhere_of_separator {c : Char} (h : p c = true) :
    splitWhere p (c :: cs) = [] :: splitWhere p cs := by
  rw [splitWhere, if_pos h]

theorem splitWhere_of_kept {c : Char} (h : p c = false) {piece : List Char}
    {pieces : List (List Char)} (hrest : splitWhere p cs = piece :: pieces) :
    splitWhere p (c :: cs) = (c :: piece) :: pieces := by
  rw [splitWhere, h, if_neg Bool.false_ne_true, hrest]

/-- The pieces are parts of the list, the first of them in front. -/
theorem exists_splitWhere_eq (p : Char → Bool) (cs : List Char) :
    ∃ piece pieces, splitWhere p cs = piece :: pieces ∧ piece <+: cs ∧
      ∀ other ∈ pieces, other <:+: cs := by
  induction cs with
  | nil => exact ⟨[], [], rfl, List.nil_prefix, fun _ h => by cases h⟩
  | cons c cs ih =>
    obtain ⟨piece, pieces, hsplit, hfirst, hothers⟩ := ih
    have hlater : ∀ other ∈ pieces, other <:+: c :: cs := fun other hother =>
      (hothers other hother).trans (List.suffix_cons c cs).isInfix
    by_cases hc : p c = true
    · refine ⟨[], piece :: pieces, ?_, List.nil_prefix, fun other hother => ?_⟩
      · rw [splitWhere_of_separator hc, hsplit]
      · rcases List.mem_cons.mp hother with rfl | hother
        · exact hfirst.isInfix.trans (List.suffix_cons c cs).isInfix
        · exact hlater other hother
    · rw [Bool.not_eq_true] at hc
      exact ⟨c :: piece, pieces, splitWhere_of_kept hc hsplit,
        List.cons_prefix_cons.mpr ⟨rfl, hfirst⟩, hlater⟩

theorem splitWhere_append_cons {front : List Char} (kept : ∀ c ∈ front, p c = false) {c : Char}
    (h : p c = true) : splitWhere p (front ++ c :: cs) = front :: splitWhere p cs := by
  induction front with
  | nil => exact splitWhere_of_separator h
  | cons d front ih =>
    obtain ⟨hd, hfront⟩ := List.forall_mem_cons.mp kept
    exact splitWhere_of_kept hd (ih hfront)

theorem infix_of_mem_splitWhere (h : word ∈ splitWhere p cs) : word <:+: cs := by
  obtain ⟨piece, pieces, hsplit, hfirst, hothers⟩ := exists_splitWhere_eq p cs
  rw [hsplit] at h
  rcases List.mem_cons.mp h with rfl | h
  · exact hfirst.isInfix
  · exact hothers word h

/-- The pieces are what is left without the separators. -/
theorem flatten_splitWhere (p : Char → Bool) (cs : List Char) :
    (splitWhere p cs).flatten = cs.filter fun c => !p c := by
  induction cs with
  | nil => rfl
  | cons c cs ih =>
    by_cases hc : p c = true
    · rw [splitWhere_of_separator hc, List.flatten_cons, List.nil_append, ih,
        List.filter_cons_of_neg (by simp [hc])]
    · rw [Bool.not_eq_true] at hc
      obtain ⟨piece, pieces, hsplit, -, -⟩ := exists_splitWhere_eq p cs
      rw [hsplit, List.flatten_cons] at ih
      rw [splitWhere_of_kept hc hsplit, List.flatten_cons, List.cons_append, ih,
        List.filter_cons_of_pos (by simp [hc])]

end Splitting

/-- A run of characters that are no blanks. -/
@[mk_iff]
structure IsWord (word : List Char) : Prop where
  nonempty : word ≠ []
  solid : ∀ c ∈ word, isBlank c = false

instance : Decidable (IsWord word) :=
  decidable_of_iff ((!word.isEmpty && word.all fun c => !isBlank c) = true) (by simp [isWord_iff])

theorem flatten_wordsOf (cs : List Char) :
    (wordsOf cs).flatten = cs.filter fun c => !isBlank c := by
  rw [wordsOf, List.flatten_filter_not_isEmpty, flatten_splitWhere]

theorem isWord_of_mem_wordsOf (h : word ∈ wordsOf cs) : IsWord word := by
  have hsome : word.isEmpty = false := by simpa using (List.mem_filter.mp h).2
  refine ⟨List.isEmpty_eq_false_iff.mp hsome, fun c hc => ?_⟩
  have hflat : c ∈ (wordsOf cs).flatten := List.mem_flatten.mpr ⟨word, h, hc⟩
  rw [flatten_wordsOf] at hflat
  simpa using (List.mem_filter.mp hflat).2

theorem infix_of_mem_wordsOf (h : word ∈ wordsOf cs) : word <:+: cs :=
  infix_of_mem_splitWhere (List.mem_filter.mp h).1

theorem wordsOf_cons_of_blank {c : Char} (h : isBlank c = true) :
    wordsOf (c :: cs) = wordsOf cs := by
  rw [wordsOf, splitWhere_of_separator h]
  rfl

/-- A word in front of a blank is the first word. -/
theorem IsWord.wordsOf_append_cons (h : IsWord word) {c : Char} (blank : isBlank c = true) :
    wordsOf (word ++ c :: cs) = word :: wordsOf cs := by
  rw [wordsOf, splitWhere_append_cons h.solid blank,
    List.filter_cons_of_pos (by simpa using h.nonempty)]
  rfl

/-- Every blank is a single space between two characters that are no blanks. -/
def IsSingleSpaced (cs : List Char) : Prop :=
  ∀ front c after, cs = front ++ c :: after → isBlank c = true →
    c = ' ' ∧ (∃ d ∈ front.getLast?, isBlank d = false) ∧ ∃ d ∈ after.head?, isBlank d = false

section Joining

theorem IsWord.isSingleSpaced (h : IsWord word) : IsSingleSpaced word := by
  rintro front c after rfl hblank
  rw [h.solid c (by simp)] at hblank
  cases hblank

theorem IsWord.exists_head? (h : IsWord word) (rest : List Char) :
    ∃ d ∈ (word ++ rest).head?, isBlank d = false := by
  obtain ⟨d, tail, rfl⟩ := List.exists_cons_of_ne_nil h.nonempty
  exact ⟨d, rfl, h.solid d List.mem_cons_self⟩

theorem IsWord.exists_getLast? (h : IsWord word) :
    ∃ d ∈ word.getLast?, isBlank d = false :=
  ⟨word.getLast h.nonempty, List.getLast?_eq_getLast_of_ne_nil h.nonempty,
    h.solid _ (List.getLast_mem h.nonempty)⟩

/-- A word may be put in front with a single space behind it. -/
theorem IsWord.isSingleSpaced_append (h : IsWord word) (single : IsSingleSpaced cs)
    (solid : ∃ d ∈ cs.head?, isBlank d = false) :
    IsSingleSpaced (word ++ ' ' :: cs) := by
  intro front c after hsplit hblank
  rcases List.append_eq_append_iff.mp hsplit with ⟨between, rfl, hrest⟩ | ⟨between, rfl, hrest⟩
  · cases between with
    | nil =>
      obtain ⟨rfl, rfl⟩ := List.cons.inj hrest
      rw [List.append_nil]
      exact ⟨rfl, h.exists_getLast?, solid⟩
    | cons d between =>
      -- the blank would stand behind the space
      obtain ⟨rfl, rfl⟩ := List.cons.inj hrest
      obtain ⟨hspace, ⟨e, hlast, he⟩, hnext⟩ := single between c after rfl hblank
      refine ⟨hspace, ⟨e, ?_, he⟩, hnext⟩
      rw [List.getLast?_append, List.getLast?_cons, hlast]
      rfl
  · cases between with
    | nil =>
      obtain ⟨rfl, rfl⟩ := List.cons.inj hrest
      have hlast := h.exists_getLast?
      rw [List.append_nil] at hlast
      exact ⟨rfl, hlast, solid⟩
    | cons d between =>
      obtain ⟨rfl, -⟩ := List.cons.inj hrest
      rw [h.solid c (by simp)] at hblank
      cases hblank

theorem isSingleSpaced_intercalate (all : ∀ word ∈ words, IsWord word) :
    IsSingleSpaced ([' '].intercalate words) := by
  induction words with
  | nil =>
    intro front c after hsplit
    exact absurd hsplit.symm (by simp)
  | cons word words ih =>
    have hword := all word List.mem_cons_self
    have hrest := ih fun other hother => all other (List.mem_cons_of_mem word hother)
    cases words with
    | nil =>
      rw [List.intercalate_singleton]
      exact hword.isSingleSpaced
    | cons next words =>
      have hnext := all next (List.mem_cons_of_mem word List.mem_cons_self)
      rw [List.intercalate_cons_cons, List.append_assoc]
      refine hword.isSingleSpaced_append hrest ?_
      cases words with
      | nil =>
        rw [List.intercalate_singleton]
        simpa using hnext.exists_head? []
      | cons later words =>
        rw [List.intercalate_cons_cons, List.append_assoc]
        exact hnext.exists_head? _

/-- What is read in a joined text without a space is read in one of its words. -/
theorem exists_infix_of_infix_intercalate (apart : ' ' ∉ part) (some : part ≠ [])
    (h : part <:+: [' '].intercalate words) : ∃ word ∈ words, part <:+: word := by
  induction words with
  | nil => exact absurd (List.infix_nil.mp h) some
  | cons word words ih =>
    cases words with
    | nil => exact ⟨word, List.mem_cons_self, by simpa using h⟩
    | cons next words =>
      rw [List.intercalate_cons_cons, List.append_assoc] at h
      rcases infix_of_infix_append_cons apart h with hword | hrest
      · exact ⟨word, List.mem_cons_self, hword⟩
      · obtain ⟨other, hother, hinfix⟩ := ih hrest
        exact ⟨other, List.mem_cons_of_mem word hother, hinfix⟩

theorem filter_intercalate (all : ∀ word ∈ words, IsWord word) :
    ([' '].intercalate words).filter (fun c => !isBlank c) = words.flatten := by
  induction words with
  | nil => rfl
  | cons word words ih =>
    have hrest := ih fun other hother => all other (List.mem_cons_of_mem word hother)
    have hword : word.filter (fun c => !isBlank c) = word :=
      List.filter_eq_self.mpr fun c hc => by
        rw [(all word List.mem_cons_self).solid c hc, Bool.not_false]
    cases words with
    | nil => simpa using hword
    | cons next words =>
      rw [List.intercalate_cons_cons, List.append_assoc, List.filter_append, hword,
        List.filter_append, hrest, List.flatten_cons]
      rfl

end Joining

end TableTalk.Text
