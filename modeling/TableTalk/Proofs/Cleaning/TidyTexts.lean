import TableTalk.Cleaning.Normalization
import TableTalk.Proofs.Text.Words

/-!
# What tidied texts do not hold

Each step of tidying removes something for good, since none of the later steps puts in
characters of which it could be made again: spaces part what tags and emoji stood between,
and the words for emoji hold no brackets of tags and no ampersands. Only the ampersand that is
decoded last can make an entity anew.
-/

namespace TableTalk.Cleaning

open Text (Patched Parts IsSingleSpaced isBlank replaceAll wordsOf)

variable {cs part : List Char} {replacements : List (String × String)} {text : String}

section Tags

/-- No opening bracket has a closing one anywhere behind it. -/
def IsTagFree (cs : List Char) : Prop :=
  ∀ front after, cs = front ++ '<' :: after → '>' ∉ after

theorem isTagFree_of_not_sublist (h : ¬ ['<', '>'].Sublist cs) : IsTagFree cs := by
  rintro front after rfl hmem
  apply h
  have htail : ['<', '>'].Sublist ('<' :: after) := (List.singleton_sublist.mpr hmem).cons_cons '<'
  exact htail.trans (List.sublist_append_right front _)

/-- Outside of tags all characters are kept, and inside of one those behind it are left. -/
theorem patched_replaceTags (cs : List Char) :
    Patched [' '] cs (replaceTags false cs) ∧
      ∃ old rest, cs = old ++ rest ∧ Patched [' '] rest (replaceTags true cs) := by
  induction cs with
  | nil => exact ⟨.nil, [], [], rfl, .nil⟩
  | cons c cs ih =>
    obtain ⟨houtside, old, rest, hsplit, hinside⟩ := ih
    constructor
    · rw [replaceTags, if_neg Bool.false_ne_true]
      by_cases htag : (c == '<' && cs.contains '>') = true
      · have hpatch := hinside.patch (c :: old)
        rw [if_pos htag]
        rwa [List.cons_append, ← hsplit] at hpatch
      · rw [if_neg htag]
        exact houtside.keep c
    · rw [replaceTags, if_pos rfl]
      by_cases hclose : c = '>'
      · refine ⟨[c], cs, rfl, ?_⟩
        rw [hclose, bne_self_eq_false]
        exact houtside
      · refine ⟨c :: old, rest, by rw [hsplit, List.cons_append], ?_⟩
        rw [bne_iff_ne.mpr hclose]
        exact hinside

theorem not_sublist_replaceTags (inside : Bool) (cs : List Char) :
    ¬ ['<', '>'].Sublist (replaceTags inside cs) := by
  fun_induction replaceTags inside cs with
  | case1 => simp
  | case2 c cs ih => exact ih
  | case3 inside c cs _ htag ih =>
    intro h
    cases h with
    | cons _ hrest => exact ih hrest
  | case4 inside c cs _ hplain ih =>
    intro h
    cases h with
    | cons _ hrest => exact ih hrest
    | cons_cons _ hrest =>
      -- a closing bracket behind the opening one would have made a tag
      have hclose : ['>'].Sublist cs :=
        (patched_replaceTags cs).1.sublist_of_sublist (by simp) hrest
      rw [List.singleton_sublist] at hclose
      exact hplain (by simpa using hclose)

end Tags

section Tables

/-- The texts that are put in keep `part` from being read where they stand. -/
def LeavesAlone (replacements : List (String × String)) (part : List Char) : Prop :=
  ∀ entry ∈ replacements, Parts entry.2.toList part

instance : Decidable (LeavesAlone replacements part) :=
  inferInstanceAs (Decidable (∀ entry ∈ replacements, Parts entry.2.toList part))

/-- What no replacement brings about is not brought about by all of them. -/
theorem of_replaceEach {holds : List Char → Prop}
    (back : ∀ entry ∈ replacements, ∀ cs,
      holds (replaceAll entry.1.toList entry.2.toList cs) → holds cs)
    (h : holds (replaceEach replacements cs)) : holds cs := by
  induction replacements generalizing cs with
  | nil => exact h
  | cons entry replacements ih =>
    apply back entry List.mem_cons_self
    exact ih (fun other hother => back other (List.mem_cons_of_mem entry hother)) h

theorem sublist_of_sublist_replaceEach
    (apart : ∀ entry ∈ replacements, ∀ c ∈ part, c ∉ entry.2.toList)
    (h : part.Sublist (replaceEach replacements cs)) : part.Sublist cs :=
  of_replaceEach (fun entry hentry cs hpart =>
    (Text.patched_replaceAll _ _ cs).sublist_of_sublist (apart entry hentry) hpart) h

theorem LeavesAlone.infix_of_replaced (h : LeavesAlone replacements part)
    (hpart : part <:+: replaceEach replacements cs) : part <:+: cs :=
  of_replaceEach (fun entry hentry cs hpart =>
    (Text.patched_replaceAll _ _ cs).infix_of_replaced (h entry hentry) hpart) hpart

/-- What is replaced at one time does not come back later. -/
theorem LeavesAlone.not_infix_replaceEach {old new : String}
    (h : LeavesAlone replacements old.toList) (hentry : (old, new) ∈ replacements) :
    ¬ old.toList <:+: replaceEach replacements cs := by
  obtain ⟨before, after, rfl⟩ := List.append_of_mem hentry
  have hlater : LeavesAlone after old.toList := fun other hother => h other (by simp [hother])
  have hsplit : replaceEach (before ++ (old, new) :: after) cs =
      replaceEach after (replaceAll old.toList new.toList (replaceEach before cs)) := by
    rw [replaceEach, List.foldl_append, List.foldl_cons]
    rfl
  rw [hsplit]
  intro hinfix
  exact Text.not_infix_replaceAll (h (old, new) hentry) _ (hlater.infix_of_replaced hinfix)

end Tables

section Texts

/-- The emoji and what is put in their places. -/
def emojiWords : List (String × String) :=
  emoji.map fun entry => (entry.1, " " ++ entry.2 ++ " ")

/-- A text whose entities are decoded and whose tags are gone. -/
def bareText (text : String) : List Char :=
  replaceTags false (replaceEach entities text.toList)

theorem toList_normalizeText (text : String) :
    (normalizeText text).toList =
      [' '].intercalate (wordsOf (replaceEach emojiWords (bareText text))) := by
  have hmap : String.toList ∘ String.ofList = id := funext fun _ => String.toList_ofList
  rw [normalizeText, String.toList_intercalate, List.map_map, hmap, List.map_id]
  rfl

theorem isSingleSpaced_normalizeText (text : String) :
    IsSingleSpaced (normalizeText text).toList := by
  rw [toList_normalizeText]
  exact Text.isSingleSpaced_intercalate fun _ => Text.isWord_of_mem_wordsOf

theorem isTagFree_normalizeText (text : String) : IsTagFree (normalizeText text).toList := by
  apply isTagFree_of_not_sublist
  intro h
  rw [toList_normalizeText] at h
  have hsolid : ['<', '>'].Sublist ((replaceEach emojiWords (bareText text)).filter
      fun c => !isBlank c) := by
    rw [← Text.flatten_wordsOf, ← Text.filter_intercalate fun _ => Text.isWord_of_mem_wordsOf]
    exact h.filter fun c => !isBlank c
  have htable : ∀ entry ∈ emojiWords, '<' ∉ entry.2.toList ∧ '>' ∉ entry.2.toList := by
    decide +kernel
  have hapart : ∀ entry ∈ emojiWords, ∀ c ∈ ['<', '>'], c ∉ entry.2.toList := by
    simpa using htable
  have hbare : ['<', '>'].Sublist (bareText text) :=
    sublist_of_sublist_replaceEach hapart (hsolid.trans List.filter_sublist)
  exact not_sublist_replaceTags false _ hbare

/-- What a tidied text holds without a space was there before the blanks were tidied. -/
theorem infix_of_infix_normalizeText (apart : ' ' ∉ part) (nonempty : part ≠ [])
    (h : part <:+: (normalizeText text).toList) :
    part <:+: replaceEach emojiWords (bareText text) := by
  rw [toList_normalizeText] at h
  obtain ⟨word, hword, hpart⟩ := Text.exists_infix_of_infix_intercalate apart nonempty h
  exact hpart.trans (Text.infix_of_mem_wordsOf hword)

theorem not_infix_emoji (text : String) {entry : String × String} (h : entry ∈ emoji) :
    ¬ entry.1.toList <:+: (normalizeText text).toList := by
  have htable : ∀ entry ∈ emoji, (' ' ∉ entry.1.toList ∧ entry.1.toList ≠ []) ∧
      LeavesAlone emojiWords entry.1.toList := by decide +kernel
  obtain ⟨⟨hapart, hnonempty⟩, halone⟩ := htable entry h
  intro hinfix
  have hmem : (entry.1, " " ++ entry.2 ++ " ") ∈ emojiWords := List.mem_map_of_mem h
  exact halone.not_infix_replaceEach hmem (infix_of_infix_normalizeText hapart hnonempty hinfix)

/-- An entity of a decoded text is one of an ampersand that was an entity itself. -/
theorem not_infix_decoded (plain : ¬ "&amp;".toList <:+: cs) {entry : String × String}
    (h : entry ∈ entities) : ¬ entry.1.toList <:+: replaceEach entities cs := by
  have htable : ∀ entry ∈ entities, LeavesAlone entities.dropLast entry.1.toList := by
    decide +kernel
  have hamp : ¬ "&amp;".toList <:+: replaceEach entities.dropLast cs := fun hinfix =>
    plain ((htable ("&amp;", "&") (by decide)).infix_of_replaced hinfix)
  have hlast : replaceEach entities cs = replaceEach entities.dropLast cs := by
    have hsplit : replaceEach entities cs =
        replaceAll "&amp;".toList "&".toList (replaceEach entities.dropLast cs) := rfl
    rw [hsplit, Text.replaceAll_of_not_infix hamp]
  have hcases : ∀ entry ∈ entities, entry ∈ entities.dropLast ∨ entry = ("&amp;", "&") := by
    decide +kernel
  rw [hlast]
  rcases hcases entry h with hearlier | rfl
  · exact (htable entry h).not_infix_replaceEach hearlier
  · exact hamp

theorem not_infix_entity (plain : ¬ "&amp;".toList <:+: text.toList) {entry : String × String}
    (h : entry ∈ entities) : ¬ entry.1.toList <:+: (normalizeText text).toList := by
  have htable : ∀ entry ∈ entities, (' ' ∉ entry.1.toList ∧ entry.1.toList ≠ []) ∧
      Parts [' '] entry.1.toList ∧ LeavesAlone emojiWords entry.1.toList := by decide +kernel
  obtain ⟨⟨hapart, hnonempty⟩, hspace, halone⟩ := htable entry h
  intro hinfix
  have hbare : entry.1.toList <:+: bareText text :=
    halone.infix_of_replaced (infix_of_infix_normalizeText hapart hnonempty hinfix)
  have hdecoded : entry.1.toList <:+: replaceEach entities text.toList :=
    (patched_replaceTags _).1.infix_of_replaced hspace hbare
  exact not_infix_decoded plain h hdecoded

end Texts

/-- A tidied text holds no opening bracket with a closing one behind it, none of the emoji, and no
blanks but single spaces between other characters. Without an encoded ampersand in the text, it
holds none of the entities either. -/
theorem tidied_texts_are_clean (text : String) :
    IsTagFree (normalizeText text).toList ∧
      (∀ entry ∈ emoji, ¬ entry.1.toList <:+: (normalizeText text).toList) ∧
      IsSingleSpaced (normalizeText text).toList ∧
      (¬ "&amp;".toList <:+: text.toList →
        ∀ entry ∈ entities, ¬ entry.1.toList <:+: (normalizeText text).toList) :=
  ⟨isTagFree_normalizeText text, fun _ => not_infix_emoji text, isSingleSpaced_normalizeText text,
    fun plain _ => not_infix_entity plain⟩

/-- Decoded brackets make a tag, and what the tag parted makes no entity. -/
theorem encoded_tag_leaves_no_entity :
    let text := "&lt;b&gt; &g&lt;/b&gt;t;\t❤️&nbsp;"
    ¬ "&amp;".toList <:+: text.toList ∧ normalizeText text = "&g t; [heart]" ∧
      (∀ entry ∈ entities, ¬ entry.1.toList <:+: (normalizeText text).toList) ∧
      IsTagFree (normalizeText text).toList ∧ IsSingleSpaced (normalizeText text).toList := by
  intro text
  have plain : ¬ "&amp;".toList <:+: text.toList := by decide +kernel
  obtain ⟨htags, -, hspaces, hentities⟩ := tidied_texts_are_clean text
  exact ⟨plain, by decide +kernel, hentities plain, htags, hspaces⟩

/-- An encoded ampersand can make an entity. -/
example : normalizeText "&amp;lt;" = "&lt;" := by decide +kernel

end TableTalk.Cleaning
