import Mathlib.Data.List.Basic
import Mathlib.Data.List.Induction
import TableTalk.Listing

/-!
# Lists without duplicates, and lookups

Keeping the first entry of every key leaves every key once, and the entry that is
left is the first one of its key. Two selections of a list keep the same entries if
every key that only one of them takes has been taken by both before. A lookup in a
list of entries is decided by the first entry with the key.
-/

namespace TableTalk.Listing

/-- Of two places in a list one is in front of the other, unless they are the same. -/
theorem places_cases {α : Type} {front after otherFront otherAfter : List α} {x y : α}
    (h : front ++ x :: after = otherFront ++ y :: otherAfter) :
    (front = otherFront ∧ x = y) ∨ (x ∈ otherFront ∧ y ∈ after) ∨
      (y ∈ front ∧ x ∈ otherAfter) := by
  rcases List.append_eq_append_iff.mp h with ⟨between, rfl, hrest⟩ | ⟨between, rfl, hrest⟩
  · cases between with
    | nil => exact Or.inl ⟨(List.append_nil _).symm, (List.cons.inj hrest).1⟩
    | cons first between =>
      obtain ⟨rfl, rfl⟩ := List.cons.inj hrest
      exact Or.inr (Or.inl ⟨by simp, by simp⟩)
  · cases between with
    | nil => exact Or.inl ⟨List.append_nil _, (List.cons.inj hrest).1.symm⟩
    | cons first between =>
      obtain ⟨rfl, rfl⟩ := List.cons.inj hrest
      exact Or.inr (Or.inr ⟨by simp, by simp⟩)

section EraseDups

variable {α : Type} [BEq α] [LawfulBEq α] {xs : List α}

theorem nodup_eraseDups (xs : List α) : xs.eraseDups.Nodup := by
  induction hlength : xs.length using Nat.strongRecOn generalizing xs with
  | ind n ih =>
    cases xs with
    | nil => exact .nil
    | cons x xs =>
      rw [List.eraseDups_cons, List.nodup_cons, List.mem_eraseDups]
      refine ⟨by simp, ih _ ?_ _ rfl⟩
      rw [← hlength, List.length_cons]
      exact Nat.lt_succ_of_le (List.length_filter_le _ _)

theorem eraseDups_of_nodup (distinct : xs.Nodup) : xs.eraseDups = xs := by
  induction xs with
  | nil => rfl
  | cons x xs ih =>
    rw [List.nodup_cons] at distinct
    rw [List.eraseDups_cons, List.filter_eq_self.mpr, ih distinct.2]
    intro y hy
    rw [Bool.not_eq_true', beq_eq_false_iff_ne]
    rintro rfl
    exact distinct.1 hy

theorem eraseDups_eq_nil_iff : xs.eraseDups = [] ↔ xs = [] := by
  rw [List.eq_nil_iff_forall_not_mem, List.eq_nil_iff_forall_not_mem]
  simp only [List.mem_eraseDups]

end EraseDups

section DistinctBy

variable {α κ : Type} [BEq κ] {key : α → κ} {xs : List α}

theorem mem_of_mem_distinctBy {x : α} (h : x ∈ distinctBy key xs) : x ∈ xs := by
  induction xs with
  | nil => exact h
  | cons y ys ih =>
    rw [distinctBy, List.mem_cons] at h
    rcases h with rfl | h
    · exact List.mem_cons_self
    · exact List.mem_cons_of_mem _ (ih (List.mem_filter.mp h).1)

variable [LawfulBEq κ]

theorem mem_map_distinctBy {k : κ} : k ∈ (distinctBy key xs).map key ↔ k ∈ xs.map key := by
  induction xs with
  | nil => rfl
  | cons x xs ih =>
    rw [distinctBy, List.map_cons, List.map_cons, List.mem_cons, List.mem_cons, ← ih]
    by_cases h : k = key x
    · simp only [h, true_or]
    · simp only [h, false_or, List.mem_map, List.mem_filter, bne_iff_ne]
      grind

theorem nodup_map_distinctBy : ((distinctBy key xs).map key).Nodup := by
  induction xs with
  | nil => exact List.nodup_nil
  | cons x xs ih =>
    rw [distinctBy, List.map_cons, List.nodup_cons]
    constructor
    · intro h
      obtain ⟨y, hy, hkey⟩ := List.mem_map.mp h
      have hne := (List.mem_filter.mp hy).2
      rw [hkey, bne_self_eq_false] at hne
      cases hne
    · exact ih.sublist (List.filter_sublist.map key)

/-- What is kept is what no entry with the same key comes before. -/
theorem mem_distinctBy_iff {x : α} : x ∈ distinctBy key xs ↔
    ∃ before after, xs = before ++ x :: after ∧ key x ∉ before.map key := by
  induction xs with
  | nil => simp [distinctBy]
  | cons y ys ih =>
    rw [distinctBy, List.mem_cons, List.mem_filter, ih, bne_iff_ne]
    constructor
    · rintro (rfl | ⟨⟨before, after, rfl, hnew⟩, hne⟩)
      · exact ⟨[], ys, rfl, List.not_mem_nil⟩
      · exact ⟨y :: before, after, rfl, by simp [hne, hnew]⟩
    · rintro ⟨before, after, hsplit, hnew⟩
      cases before with
      | nil => exact Or.inl (List.cons.inj hsplit).1.symm
      | cons z before =>
        obtain ⟨rfl, rfl⟩ := List.cons.inj hsplit
        rw [List.map_cons, List.mem_cons, not_or] at hnew
        exact Or.inr ⟨⟨before, after, rfl, hnew.2⟩, hnew.1⟩

theorem head?_filter_of_mem_distinctBy {y : α} (h : y ∈ distinctBy key xs) :
    (xs.filter fun x => key x == key y).head? = some y := by
  induction xs with
  | nil => cases h
  | cons x xs ih =>
    rw [distinctBy, List.mem_cons] at h
    rcases h with rfl | h
    · rw [List.filter_cons, if_pos (beq_self_eq_true _), List.head?_cons]
    · obtain ⟨hmem, hne⟩ := List.mem_filter.mp h
      have hkey : ¬ (key x == key y) = true := fun he => bne_iff_ne.mp hne (beq_iff_eq.mp he).symm
      rw [List.filter_cons, if_neg hkey, ih hmem]

variable {p q : α → Bool} {ys : List α} {x : α}

theorem distinctBy_append (xs ys : List α) :
    distinctBy key (xs ++ ys) =
      distinctBy key xs ++ (distinctBy key ys).filter fun y => !(xs.map key).contains (key y) := by
  induction xs with
  | nil => simp [distinctBy]
  | cons z zs ih =>
    rw [List.cons_append, distinctBy, ih, List.filter_append, List.filter_filter, distinctBy,
      List.cons_append]
    simp only [List.map_cons, List.contains_cons, Bool.not_or, bne]

/-- Lists with the same first entries go on having them after one entry more. -/
theorem distinctBy_concat_congr (h : distinctBy key xs = distinctBy key ys) (x : α) :
    distinctBy key (xs ++ [x]) = distinctBy key (ys ++ [x]) := by
  have hkeys : (xs.map key).contains (key x) = (ys.map key).contains (key x) := by
    rw [Bool.eq_iff_iff, List.contains_iff_mem, List.contains_iff_mem, ← mem_map_distinctBy, h,
      mem_map_distinctBy]
  rw [distinctBy_append, distinctBy_append, h]
  simp only [distinctBy, List.filter_nil, List.filter_singleton, hkeys]

theorem distinctBy_concat_of_mem (h : key x ∈ xs.map key) :
    distinctBy key (xs ++ [x]) = distinctBy key xs := by
  rw [distinctBy_append, List.filter_eq_nil_iff.mpr ?_, List.append_nil]
  intro y hy
  rw [List.mem_singleton.mp (mem_of_mem_distinctBy hy), List.contains_iff_mem.mpr h]
  decide

theorem distinctBy_concat_of_notMem (h : key x ∉ xs.map key) :
    distinctBy key (xs ++ [x]) = distinctBy key xs ++ [x] := by
  have hnew : (xs.map key).contains (key x) = false := by
    rw [← Bool.not_eq_true, List.contains_iff_mem]
    exact h
  rw [distinctBy_append]
  simp only [distinctBy, List.filter_nil, List.filter_singleton, hnew, Bool.not_false, cond_true]

/-- What is kept stands in the order in which its keys are seen first. -/
theorem pairwise_findIdx_distinctBy (xs : List α) :
    (distinctBy key xs).Pairwise fun x y =>
      (xs.findIdx fun z => key z == key x) < xs.findIdx fun z => key z == key y := by
  induction xs with
  | nil => exact .nil
  | cons x xs ih =>
    have hnext : ∀ y ∈ (distinctBy key xs).filter (fun y => key y != key x),
        (x :: xs).findIdx (fun z => key z == key y) =
          xs.findIdx (fun z => key z == key y) + 1 := fun y hy => by
      have hne : (key x == key y) = false :=
        beq_eq_false_iff_ne.mpr (bne_iff_ne.mp (List.mem_filter.mp hy).2).symm
      rw [List.findIdx_cons, hne, cond_false]
    rw [distinctBy, List.pairwise_cons]
    constructor
    · intro y hy
      rw [hnext y hy, List.findIdx_cons, beq_self_eq_true, cond_true]
      exact Nat.succ_pos _
    · refine (ih.filter _).imp_of_mem fun {y z} hy hz hlt => ?_
      rw [hnext y hy, hnext z hz]
      exact Nat.succ_lt_succ hlt

/-- If only one of two selections takes an entry and both keep the same first entries, both take an
entry with its key before. -/
theorem exists_before_of_distinctBy_eq {before after : List α}
    (h : distinctBy key ((before ++ x :: after).filter p) =
      distinctBy key ((before ++ x :: after).filter q)) (hp : p x = true) (hq : q x = false) :
    ∃ y ∈ before, key y = key x ∧ p y = true ∧ q y = true := by
  have hx : x ∈ (before ++ x :: after).filter p := by simp [hp]
  obtain ⟨y, hy, hkey⟩ :=
    List.mem_map.mp (mem_map_distinctBy.mpr (List.mem_map_of_mem (f := key) hx))
  have hqy : q y = true := (List.mem_filter.mp (mem_of_mem_distinctBy (h ▸ hy))).2
  have hpy : p y = true := (List.mem_filter.mp (mem_of_mem_distinctBy hy)).2
  refine ⟨y, ?_, hkey, hpy, hqy⟩
  -- the entry that is kept is the first one with its key, and it is not the entry at this place
  have hfirst := head?_filter_of_mem_distinctBy hy
  rw [List.filter_append, List.filter_cons, if_pos hp, List.filter_append, List.filter_cons,
    if_pos (beq_iff_eq.mpr hkey.symm), List.head?_append, Option.or_eq_some_iff] at hfirst
  rcases hfirst with hfirst | ⟨-, hfirst⟩
  · exact (List.mem_filter.mp (List.mem_filter.mp (List.mem_of_head? hfirst)).1).1
  · rw [List.head?_cons, Option.some.injEq] at hfirst
    rw [hfirst, hqy] at hq
    cases hq

/-- Two selections keep the same first entries exactly if every entry that only one of them takes
comes after an entry with its key that both of them take. -/
theorem distinctBy_filter_eq_iff :
    distinctBy key (xs.filter p) = distinctBy key (xs.filter q) ↔
      ∀ before x after, xs = before ++ x :: after → p x ≠ q x →
        ∃ y ∈ before, key y = key x ∧ p y = true ∧ q y = true := by
  constructor
  case mp =>
    rintro h before x after rfl hne
    cases hp : p x with
    | false =>
      have hq : q x = true := by simpa [hp] using hne
      obtain ⟨y, hy, hkey, hqy, hpy⟩ := exists_before_of_distinctBy_eq h.symm hq hp
      exact ⟨y, hy, hkey, hpy, hqy⟩
    | true =>
      have hq : q x = false := by simpa [hp] using hne
      exact exists_before_of_distinctBy_eq h hp hq
  case mpr =>
    intro h
    induction xs using List.reverseRecOn with
    | nil => rfl
    | append_singleton xs x ih =>
      have hxs : distinctBy key (xs.filter p) = distinctBy key (xs.filter q) := by
        refine ih fun before y after hy hne => h before y (after ++ [x]) ?_ hne
        rw [hy, List.append_assoc, List.cons_append]
      by_cases hne : p x = q x
      case pos =>
        rw [List.filter_append, List.filter_append, List.filter_singleton, List.filter_singleton,
          hne]
        cases q x
        · rwa [cond_false, List.append_nil, List.append_nil]
        · exact distinctBy_concat_congr hxs x
      case neg =>
        -- the entry that only one selection takes is not the first one with its key
        obtain ⟨y, hy, hkey, hpy, hqy⟩ := h xs x [] rfl hne
        have hdropped {r : α → Bool} (hr : r y = true) :
            distinctBy key ((xs ++ [x]).filter r) = distinctBy key (xs.filter r) := by
          rw [List.filter_append, List.filter_singleton]
          cases r x
          · rw [cond_false, List.append_nil]
          · exact distinctBy_concat_of_mem
              (List.mem_map.mpr ⟨y, List.mem_filter.mpr ⟨hy, hr⟩, hkey⟩)
        rw [hdropped hpy, hdropped hqy, hxs]

section Sources

variable {τ : Type} {f : τ → Option α} {ts : List τ} {x : α}

/-- What is kept of what the elements of a list give comes from the first element that gives an
entry with its key. -/
theorem mem_distinctBy_filterMap_iff : x ∈ distinctBy key (ts.filterMap f) ↔
    ∃ before t after, ts = before ++ t :: after ∧ f t = some x ∧
      ∀ s ∈ before, ∀ y, f s = some y → key y ≠ key x := by
  rw [mem_distinctBy_iff]
  constructor
  · rintro ⟨before, after, hsplit, hnew⟩
    obtain ⟨front, rest, rfl, rfl, hrest⟩ := List.filterMap_eq_append_iff.mp hsplit
    obtain ⟨silent, t, back, rfl, hsilent, hfound, -⟩ := List.filterMap_eq_cons_iff.mp hrest
    refine ⟨front ++ silent, t, back, (List.append_assoc ..).symm, hfound, fun s hs y hy he => ?_⟩
    rcases List.mem_append.mp hs with hs | hs
    · exact hnew (List.mem_map.mpr ⟨y, List.mem_filterMap.mpr ⟨s, hs, hy⟩, he⟩)
    · rw [hsilent s hs] at hy
      cases hy
  · rintro ⟨before, t, after, rfl, hfound, hnew⟩
    refine ⟨before.filterMap f, after.filterMap f, ?_, fun hseen => ?_⟩
    · rw [List.filterMap_append, List.filterMap_cons_some hfound]
    · obtain ⟨y, hy, hkey⟩ := List.mem_map.mp hseen
      obtain ⟨s, hs, hys⟩ := List.mem_filterMap.mp hy
      exact hnew s hs y hys hkey

/-- What is kept stands in the order of the elements that it comes from. -/
theorem pairwise_idxOf_distinctBy_filterMap [BEq τ] [LawfulBEq τ] {source : α → τ}
    (hsource : ∀ t x, f t = some x → source x = t) (ts : List τ) :
    (distinctBy key (ts.filterMap f)).Pairwise fun x y =>
      ts.idxOf (source x) < ts.idxOf (source y) := by
  induction ts using List.reverseRecOn with
  | nil => exact .nil
  | append_singleton ts t ih =>
    have hmem : ∀ x ∈ distinctBy key (ts.filterMap f), source x ∈ ts := fun x hx => by
      obtain ⟨s, hs, hfound⟩ := List.mem_filterMap.mp (mem_of_mem_distinctBy hx)
      rwa [hsource s x hfound]
    have hkept : ∀ x ∈ distinctBy key (ts.filterMap f),
        (ts ++ [t]).idxOf (source x) = ts.idxOf (source x) := fun x hx =>
      List.idxOf_append_of_mem (hmem x hx)
    have hearlier : (distinctBy key (ts.filterMap f)).Pairwise fun x y =>
        (ts ++ [t]).idxOf (source x) < (ts ++ [t]).idxOf (source y) :=
      ih.imp_of_mem fun hx hy hlt => by rwa [hkept _ hx, hkept _ hy]
    rw [List.filterMap_append, distinctBy_append, List.pairwise_append]
    refine ⟨hearlier, ?_, fun x hx y hy => ?_⟩
    · cases hfound : f t with
      | none => simp [hfound, distinctBy]
      | some y => simpa [hfound, distinctBy] using (List.pairwise_singleton _ y).filter _
    · obtain ⟨hy, hnew⟩ := List.mem_filter.mp hy
      obtain ⟨s, hs, hfound⟩ := List.mem_filterMap.mp (mem_of_mem_distinctBy hy)
      obtain rfl := List.mem_singleton.mp hs
      -- an element that stood there before would have given the same entry
      have hnotMem : s ∉ ts := fun hs => by
        have hseen : key y ∈ (ts.filterMap f).map key :=
          List.mem_map_of_mem (List.mem_filterMap.mpr ⟨s, hs, hfound⟩)
        rw [Bool.not_eq_true', ← Bool.not_eq_true, List.contains_iff_mem] at hnew
        exact hnew hseen
      rw [hkept x hx, hsource s y hfound, List.idxOf_append_of_notMem hnotMem]
      exact Nat.lt_of_lt_of_le (List.idxOf_lt_length_iff.mpr (hmem x hx)) (Nat.le_add_right _ _)

end Sources

end DistinctBy

section Lookup

variable {κ α : Type} [BEq κ] [LawfulBEq κ] [DecidableEq κ]

theorem lookup_cons_eq (key : κ) (entry : κ × α) (entries : List (κ × α)) :
    (entry :: entries).lookup key =
      if key = entry.1 then some entry.2 else entries.lookup key := by
  rw [List.lookup_cons]
  by_cases h : key = entry.1
  · rw [if_pos h, beq_iff_eq.mpr h]
  · rw [if_neg h, beq_eq_false_iff_ne.mpr h]

/-- A change to what is under one key is a change to what comes after an entry with another key. -/
theorem lookup_cons_of_ne {key other : κ} {entry : κ × α} {found : Option α}
    {changed entries : List (κ × α)} (h : entry.1 ≠ key)
    (rest : changed.lookup other = if other = key then found else entries.lookup other) :
    (entry :: changed).lookup other =
      if other = key then found else (entry :: entries).lookup other := by
  rw [lookup_cons_eq, lookup_cons_eq, rest]
  by_cases hother : other = key
  · have hne : other ≠ entry.1 := fun he => h (he.symm.trans hother)
    rw [if_neg hne, if_pos hother, if_pos hother]
  · rw [if_neg hother, if_neg hother]

end Lookup

end TableTalk.Listing
