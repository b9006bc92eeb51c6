import Mathlib.Data.List.DropRight
import TableTalk.Text.Words

/-!
# Trimmed texts

Stripping a text drops characters of a class from both ends. It has nothing left to drop
the second time, and nothing at all to drop where the class does not occur.
-/

namespace TableTalk.Text

variable {p : Char → Bool} {cs : List Char}

theorem dropEndWhile_eq_rdropWhile (p : Char → Bool) (cs : List Char) :
    dropEndWhile p cs = cs.rdropWhile p := rfl

theorem stripWhile_stripWhile (p : Char → Bool) (cs : List Char) :
    stripWhile p (stripWhile p cs) = stripWhile p cs := by
  have hfront : (stripWhile p cs).dropWhile p = stripWhile p cs := by
    rw [stripWhile, dropEndWhile_eq_rdropWhile, List.dropWhile_eq_self_iff]
    intro hlength hblank
    -- the first character stays first when blanks are dropped from the end
    have hstart : (cs.dropWhile p).rdropWhile p <+: cs.dropWhile p := List.rdropWhile_prefix p _
    have hpos : 0 < (cs.dropWhile p).length := hlength.trans_le hstart.length_le
    rw [hstart.getElem hlength] at hblank
    exact List.dropWhile_get_zero_not p cs hpos hblank
  rw [stripWhile, hfront, stripWhile, dropEndWhile_eq_rdropWhile, dropEndWhile_eq_rdropWhile,
    List.rdropWhile_idempotent]

theorem trim_trim (text : String) : trim (trim text) = trim text := by
  rw [trim, trim, String.toList_ofList, stripWhile_stripWhile]

/-- Dropping characters from the end commutes with taking out some of that class everywhere. -/
theorem filter_dropEndWhile {q : Char → Bool} (out : ∀ c, q c = false → p c = true) :
    (dropEndWhile p cs).filter q = dropEndWhile p (cs.filter q) := by
  simp only [dropEndWhile_eq_rdropWhile]
  induction cs using List.reverseRecOn with
  | nil => rfl
  | append_singleton cs c ih =>
    rw [List.filter_append]
    by_cases hp : p c = true
    · rw [List.rdropWhile_concat_pos p cs c hp, ih]
      cases hq : q c
      · rw [List.filter_cons_of_neg (by simp [hq]), List.filter_nil, List.append_nil]
      · rw [List.filter_cons_of_pos hq, List.filter_nil, List.rdropWhile_concat_pos p _ c hp]
    · have hq : q c = true := by
        by_contra hq
        exact hp (out c (Bool.eq_false_iff.mpr hq))
      rw [List.rdropWhile_concat_neg p cs c hp, List.filter_append, List.filter_cons_of_pos hq,
        List.filter_nil, List.rdropWhile_concat_neg p _ c hp]

theorem dropEndWhile_of_none (none : ∀ c ∈ cs, p c = false) : dropEndWhile p cs = cs := by
  rw [dropEndWhile_eq_rdropWhile, List.rdropWhile_eq_self_iff]
  intro some
  rw [none _ (List.getLast_mem some)]
  exact Bool.false_ne_true

theorem dropWhile_of_none (none : ∀ c ∈ cs, p c = false) : cs.dropWhile p = cs := by
  rw [List.dropWhile_eq_self_iff]
  intro some
  rw [none _ (List.getElem_mem some)]
  exact Bool.false_ne_true

theorem stripWhile_of_none (none : ∀ c ∈ cs, p c = false) : stripWhile p cs = cs := by
  rw [stripWhile, dropWhile_of_none none, dropEndWhile_of_none none]

end TableTalk.Text
