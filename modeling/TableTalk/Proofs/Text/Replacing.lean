import Mathlib.Data.List.Infix
import TableTalk.Text.Words

/-!
# What replacing leaves of a text

Where a text is put in the place of parts of another one, whatever is read afterwards that
neither is part of it nor can run over its ends was there before: what stood on both sides is
not joined. In particular, an occurrence that is replaced by such a text is gone for good.
-/

namespace TableTalk.Text

variable {part cs out old new : List Char}

section Parting

theorem prefix_of_prefix_append_cons {c : Char} {front rest : List Char} (apart : c ∉ part)
    (h : part <+: front ++ c :: rest) : part <+: front := by
  induction front generalizing part with
  | nil =>
    cases part with
    | nil => exact List.nil_prefix
    | cons d part =>
      obtain rfl := (List.cons_prefix_cons.mp h).1
      exact absurd List.mem_cons_self apart
  | cons d front ih =>
    cases part with
    | nil => exact List.nil_prefix
    | cons e part =>
      obtain ⟨rfl, hrest⟩ := List.cons_prefix_cons.mp h
      exact List.cons_prefix_cons.mpr
        ⟨rfl, ih (fun hmem => apart (List.mem_cons_of_mem e hmem)) hrest⟩

/-- What is read without a character stands in front of it or behind it. -/
theorem infix_of_infix_append_cons {c : Char} {front rest : List Char} (apart : c ∉ part)
    (h : part <:+: front ++ c :: rest) : part <:+: front ∨ part <:+: rest := by
  induction front with
  | nil =>
    rcases List.infix_cons_iff.mp h with hprefix | hinfix
    · have hfront : part <+: [] := prefix_of_prefix_append_cons apart hprefix
      exact Or.inl hfront.isInfix
    · exact Or.inr hinfix
  | cons d front ih =>
    rcases List.infix_cons_iff.mp h with hprefix | hinfix
    · have hfront : part <+: d :: front := prefix_of_prefix_append_cons apart hprefix
      exact Or.inl hfront.isInfix
    · exact (ih hinfix).imp_left fun hfront => hfront.trans (List.suffix_cons d front).isInfix

/-- A text that is put between others keeps `part` from being read there: it does not hold `part`,
and its ends belong to no occurrence of it. -/
structure Parts (new part : List Char) : Prop where
  first : ∃ c ∈ new.head?, c ∉ part
  last : ∃ c ∈ new.getLast?, c ∉ part
  absent : ¬ part <:+: new

theorem parts_iff : Parts new part ↔
    new.head?.any (· ∉ part) = true ∧ new.getLast?.any (· ∉ part) = true ∧ ¬ part <:+: new := by
  rw [Option.any_eq_true, Option.any_eq_true]
  simp only [decide_eq_true_iff]
  exact ⟨fun h => ⟨h.first, h.last, h.absent⟩, fun h => ⟨h.1, h.2.1, h.2.2⟩⟩

instance : Decidable (Parts new part) :=
  decidable_of_iff' _ parts_iff

theorem eq_nil_of_prefix_append (first : ∃ c ∈ new.head?, c ∉ part) (h : part <+: new ++ out) :
    part = [] := by
  obtain ⟨c, hc, apart⟩ := first
  obtain ⟨tail, rfl⟩ := List.head?_eq_some_iff.mp hc
  have hnil : part <+: [] := prefix_of_prefix_append_cons apart h
  exact List.prefix_nil.mp hnil

theorem Parts.infix_of_infix_append (h : Parts new part) (hpart : part <:+: new ++ out) :
    part <:+: out := by
  obtain ⟨c, hc, apart⟩ := h.last
  obtain ⟨front, rfl⟩ := List.getLast?_eq_some_iff.mp hc
  rw [List.append_assoc, List.singleton_append] at hpart
  rcases infix_of_infix_append_cons apart hpart with hfront | hout
  · exact absurd (hfront.trans (List.prefix_append front [c]).isInfix) h.absent
  · exact hout

end Parting

/-- A text is made of another one by putting `new` in the place of parts of it. -/
inductive Patched (new : List Char) : List Char → List Char → Prop
  | nil : Patched new [] []
  | keep {cs out : List Char} (c : Char) (rest : Patched new cs out) :
    Patched new (c :: cs) (c :: out)
  | patch {cs out : List Char} (old : List Char) (rest : Patched new cs out) :
    Patched new (old ++ cs) (new ++ out)

namespace Patched

theorem prefix_of_replaced (h : Patched new cs out) (first : ∃ c ∈ new.head?, c ∉ part)
    (hpart : part <+: out) : part <+: cs := by
  induction h generalizing part with
  | nil => exact hpart
  | keep c _ ih =>
    cases part with
    | nil => exact List.nil_prefix
    | cons d part =>
      obtain ⟨rfl, hrest⟩ := List.cons_prefix_cons.mp hpart
      obtain ⟨e, he, apart⟩ := first
      exact List.cons_prefix_cons.mpr
        ⟨rfl, ih ⟨e, he, fun hmem => apart (List.mem_cons_of_mem d hmem)⟩ hrest⟩
  | patch old _ _ =>
    rw [eq_nil_of_prefix_append first hpart]
    exact List.nil_prefix

/-- What is read afterwards, and is kept apart from what was put in, was there before. -/
theorem infix_of_replaced (h : Patched new cs out) (parts : Parts new part)
    (hpart : part <:+: out) : part <:+: cs := by
  induction h with
  | nil => exact hpart
  | keep c rest ih =>
    rcases List.infix_cons_iff.mp hpart with hprefix | hinfix
    · exact ((rest.keep c).prefix_of_replaced parts.first hprefix).isInfix
    · exact (ih hinfix).trans (List.suffix_cons c _).isInfix
  | patch old _ ih =>
    exact (ih (parts.infix_of_infix_append hpart)).trans (List.suffix_append old _).isInfix

/-- Characters of which none was put in stood in this order before. -/
theorem sublist_of_sublist (h : Patched new cs out) (apart : ∀ c ∈ part, c ∉ new)
    (hpart : part.Sublist out) : part.Sublist cs := by
  induction h generalizing part with
  | nil => exact hpart
  | keep c _ ih =>
    cases hpart with
    | cons _ hrest => exact (ih apart hrest).cons c
    | cons_cons _ hrest =>
      exact (ih (fun e he => apart e (List.mem_cons_of_mem c he)) hrest).cons_cons c
  | patch old _ ih =>
    obtain ⟨first, second, rfl, hfirst, hsecond⟩ := List.sublist_append_iff.mp hpart
    cases first with
    | nil => exact (ih apart hsecond).trans (List.sublist_append_right old _)
    | cons d first =>
      have hd : d ∈ new := hfirst.subset List.mem_cons_self
      exact absurd hd (apart d (List.mem_append_left second List.mem_cons_self))

end Patched

section Replacing

theorem patched_replaceAfter (old new : List Char) (skip : ℕ) (cs : List Char) :
    Patched new (cs.drop skip) (replaceAfter old new skip cs) := by
  fun_induction replaceAfter old new skip cs with
  | case1 skip => rw [List.drop_nil]; exact .nil
  | case2 skip c cs ih => exact ih
  | case3 c cs _ ih =>
    have hpatch := ih.patch (c :: cs.take (old.length - 1))
    rwa [List.cons_append, List.take_append_drop] at hpatch
  | case4 c cs _ ih => exact ih.keep c

theorem patched_replaceAll (old new cs : List Char) : Patched new cs (replaceAll old new cs) :=
  patched_replaceAfter old new 0 cs

theorem not_infix_replaceAfter (parts : Parts new old) (skip : ℕ) (cs : List Char) :
    ¬ old <:+: replaceAfter old new skip cs := by
  fun_induction replaceAfter old new skip cs with
  | case1 skip =>
    intro h
    rw [List.infix_nil.mp h] at parts
    exact parts.absent List.nil_infix
  | case2 skip c cs ih => exact ih
  | case3 c cs _ ih => exact fun h => ih (parts.infix_of_infix_append h)
  | case4 c cs hnone ih =>
    intro h
    rcases List.infix_cons_iff.mp h with hprefix | hinfix
    · have hkept := (patched_replaceAfter old new 0 cs).keep c
      exact hnone (List.isPrefixOf_iff_prefix.mpr (hkept.prefix_of_replaced parts.first hprefix))
    · exact ih hinfix

/-- What is replaced by a text that keeps it apart does not occur any more. -/
theorem not_infix_replaceAll (parts : Parts new old) (cs : List Char) :
    ¬ old <:+: replaceAll old new cs :=
  not_infix_replaceAfter parts 0 cs

theorem replaceAll_of_not_infix (h : ¬ old <:+: cs) : replaceAll old new cs = cs := by
  induction cs with
  | nil => rfl
  | cons c cs ih =>
    rw [List.infix_cons_iff, not_or] at h
    have hnone : old.isPrefixOf (c :: cs) = false :=
      Bool.eq_false_iff.mpr fun hprefix => h.1 (List.isPrefixOf_iff_prefix.mp hprefix)
    rw [replaceAll, replaceAfter, hnone, if_neg Bool.false_ne_true]
    exact congrArg (c :: ·) (ih h.2)

end Replacing

end TableTalk.Text
