import Mathlib.Data.List.Zip
import TableTalk.Proofs.Values
import TableTalk.Series.Order

/-!
# Sorted lists

Sorting by a total preorder puts the elements in its order and leaves elements
that tie as they stood. What the elements are compared by may be read off a list
of other entries instead, so a sort can be followed by way of the positions of the
elements. Among values that all have a place, both directions of sorting are total
preorders, and the rows that are sorted by them are a stable sort.
-/

namespace TableTalk.Listing

variable {α β : Type}

theorem mem_insertFromEnd {precedes : α → α → Bool} {x y : α} {xs : List α} :
    y ∈ insertFromEnd precedes x xs ↔ y = x ∨ y ∈ xs := by
  rw [(insertFromEnd_perm precedes x xs).mem_iff, List.mem_cons]

theorem mem_sort {precedes : α → α → Bool} {x : α} {xs : List α} :
    x ∈ sort precedes xs ↔ x ∈ xs :=
  (sort_perm precedes xs).mem_iff

/-- Elements are compared by what is read off them. -/
theorem transCmp_on {κ : Type} (cmp : κ → κ → Ordering) [Std.TransCmp cmp] (key : α → κ) :
    Std.TransCmp fun a b => cmp (key a) (key b) where
  eq_swap := Std.OrientedCmp.eq_swap
  isLE_trans := Std.TransCmp.isLE_trans

section Stable

/-- One element comes before another in a sorted list: by size, or as a tie that stood before
it. -/
def InOrder (cmp : α → α → Ordering) (earlier : α → α → Prop) (a b : α) : Prop :=
  cmp a b = .lt ∨ cmp a b = .eq ∧ earlier a b

variable {cmp : α → α → Ordering} {earlier : α → α → Prop} {a b : α}

theorem InOrder.isLE (h : InOrder cmp earlier a b) : (cmp a b).isLE = true := by
  rcases h with h | ⟨h, -⟩ <;> rw [h] <;> rfl

theorem inOrder_of_isLE (h : (cmp a b).isLE = true) (before : earlier a b) :
    InOrder cmp earlier a b := by
  rcases Ordering.isLE_iff_eq_lt_or_eq_eq.mp h with h | h
  · exact Or.inl h
  · exact Or.inr ⟨h, before⟩

variable [Std.TransCmp cmp]

/-- Inserting an element that comes after all others keeps a list sorted from its end. -/
theorem pairwise_insertFromEnd {x : α} {sorted : List α}
    (ordered : sorted.Pairwise fun a b => InOrder cmp earlier b a)
    (last : ∀ y ∈ sorted, earlier y x) :
    (insertFromEnd (fun a b => cmp a b == .lt) x sorted).Pairwise
      fun a b => InOrder cmp earlier b a := by
  induction sorted with
  | nil => exact List.pairwise_singleton _ x
  | cons y ys ih =>
    obtain ⟨hy, hys⟩ := List.pairwise_cons.mp ordered
    rw [insertFromEnd]
    split
    case isTrue hlt =>
      rw [beq_iff_eq] at hlt
      refine List.pairwise_cons.mpr ⟨fun z hz => ?_, ih hys fun z hz =>
        last z (List.mem_cons_of_mem y hz)⟩
      rcases mem_insertFromEnd.mp hz with rfl | hz
      · exact Or.inl hlt
      · exact hy z hz
    case isFalse hge =>
      -- everything that is at most `y` is at most `x`
      have hyx : (cmp y x).isLE = true := by
        rw [← Std.OrientedCmp.isGE_iff_isLE, Ordering.isGE_iff_ne_lt]
        simpa using hge
      refine List.pairwise_cons.mpr ⟨fun z hz => ?_, ordered⟩
      refine inOrder_of_isLE ?_ (last z hz)
      rcases List.mem_cons.mp hz with rfl | hz
      · exact hyx
      · exact Std.TransCmp.isLE_trans (hy z hz).isLE hyx

theorem pairwise_foldl_insertFromEnd {xs sorted : List α} (stood : xs.Pairwise earlier)
    (after : ∀ y ∈ sorted, ∀ x ∈ xs, earlier y x)
    (ordered : sorted.Pairwise fun a b => InOrder cmp earlier b a) :
    (xs.foldl (fun sorted x => insertFromEnd (fun a b => cmp a b == .lt) x sorted) sorted).Pairwise
      fun a b => InOrder cmp earlier b a := by
  induction xs generalizing sorted with
  | nil => exact ordered
  | cons x xs ih =>
    obtain ⟨hx, hxs⟩ := List.pairwise_cons.mp stood
    refine ih hxs (fun y hy z hz => ?_)
      (pairwise_insertFromEnd ordered fun y hy => after y hy x List.mem_cons_self)
    rcases mem_insertFromEnd.mp hy with rfl | hy
    · exact hx z hz
    · exact after y hy z (List.mem_cons_of_mem x hz)

/-- A sorted list is in order, and elements that tie stand as they stood before. -/
theorem pairwise_sort {xs : List α} (stood : xs.Pairwise earlier) :
    (sort (fun a b => cmp a b == .lt) xs).Pairwise (InOrder cmp earlier) := by
  rw [sort, List.pairwise_reverse]
  exact pairwise_foldl_insertFromEnd stood (by simp) .nil

end Stable

section Maps

variable {precedes : β → β → Bool} {f : α → β}

theorem insertFromEnd_map (x : α) (xs : List α) :
    insertFromEnd precedes (f x) (xs.map f) =
      (insertFromEnd (fun a b => precedes (f a) (f b)) x xs).map f := by
  induction xs with
  | nil => rfl
  | cons y ys ih =>
    rw [List.map_cons, insertFromEnd, insertFromEnd, ih]
    split <;> rfl

theorem foldl_insertFromEnd_map (xs sorted : List α) :
    (xs.map f).foldl (fun sorted x => insertFromEnd precedes x sorted) (sorted.map f) =
      (xs.foldl (fun sorted x =>
        insertFromEnd (fun a b => precedes (f a) (f b)) x sorted) sorted).map f := by
  induction xs generalizing sorted with
  | nil => rfl
  | cons x xs ih => rw [List.map_cons, List.foldl_cons, List.foldl_cons, insertFromEnd_map, ih]

theorem sort_map (xs : List α) :
    sort precedes (xs.map f) = (sort (fun a b => precedes (f a) (f b)) xs).map f := by
  rw [sort, sort, List.map_reverse, ← foldl_insertFromEnd_map]
  rfl

end Maps

section Congr

variable {p q : α → α → Bool}

theorem insertFromEnd_congr {x : α} {xs : List α} (same : ∀ y ∈ xs, p x y = q x y) :
    insertFromEnd p x xs = insertFromEnd q x xs := by
  induction xs with
  | nil => rfl
  | cons y ys ih =>
    rw [insertFromEnd, insertFromEnd, same y List.mem_cons_self,
      ih fun z hz => same z (List.mem_cons_of_mem y hz)]

theorem foldl_insertFromEnd_congr {xs sorted : List α}
    (same : ∀ x ∈ xs, ∀ y, y ∈ xs ∨ y ∈ sorted → p x y = q x y) :
    xs.foldl (fun sorted x => insertFromEnd p x sorted) sorted =
      xs.foldl (fun sorted x => insertFromEnd q x sorted) sorted := by
  induction xs generalizing sorted with
  | nil => rfl
  | cons x xs ih =>
    rw [List.foldl_cons, List.foldl_cons,
      insertFromEnd_congr fun y hy => same x List.mem_cons_self y (Or.inr hy)]
    refine ih fun z hz y hy => same z (List.mem_cons_of_mem x hz) y ?_
    rw [mem_insertFromEnd] at hy
    rw [List.mem_cons]
    tauto

/-- Only comparisons of elements of the list matter. -/
theorem sort_congr {xs : List α} (same : ∀ x ∈ xs, ∀ y ∈ xs, p x y = q x y) :
    sort p xs = sort q xs := by
  rw [sort, sort, foldl_insertFromEnd_congr]
  intro x hx y hy
  exact same x hx y (hy.resolve_right List.not_mem_nil)

end Congr

section Ties

variable {cmp : α → α → Ordering} [Std.TransCmp cmp] {x y : α} {xs sorted : List α}

/-- Whatever an element is moved in front of does not tie with it. -/
theorem filter_insertFromEnd_of_tied (tied : cmp x y = .eq) :
    (insertFromEnd (fun a b => cmp a b == .lt) y xs).filter (fun z => cmp x z == .eq) =
      y :: xs.filter fun z => cmp x z == .eq := by
  have hy : (cmp x y == .eq) = true := beq_iff_eq.mpr tied
  induction xs with
  | nil => simp [insertFromEnd, hy]
  | cons z zs ih =>
    rw [insertFromEnd]
    split
    case isTrue hlt =>
      have hz : ¬ (cmp x z == .eq) = true := by
        rw [beq_iff_eq, Std.TransCmp.congr_left tied, beq_iff_eq.mp hlt]
        decide
      rw [List.filter_cons, if_neg hz, ih, List.filter_cons, if_neg hz]
    case isFalse => rw [List.filter_cons, if_pos hy]

omit [Std.TransCmp cmp] in
theorem filter_insertFromEnd_of_apart {precedes : α → α → Bool} {p : α → Bool}
    (apart : p y = false) :
    (insertFromEnd precedes y xs).filter p = xs.filter p := by
  have hy : ¬ p y = true := by rw [apart]; decide
  induction xs with
  | nil => rw [insertFromEnd, List.filter_cons_of_neg hy]
  | cons z zs ih =>
    rw [insertFromEnd]
    split
    · rw [List.filter_cons, List.filter_cons, ih]
    · rw [List.filter_cons_of_neg hy]

theorem filter_foldl_insertFromEnd (xs sorted : List α) :
    (xs.foldl (fun sorted y => insertFromEnd (fun a b => cmp a b == .lt) y sorted) sorted).filter
        (fun z => cmp x z == .eq) =
      (xs.filter fun z => cmp x z == .eq).reverse ++ sorted.filter fun z => cmp x z == .eq := by
  induction xs generalizing sorted with
  | nil => rfl
  | cons y ys ih =>
    rw [List.foldl_cons, ih]
    by_cases tied : cmp x y = .eq
    · rw [filter_insertFromEnd_of_tied tied, List.filter_cons, if_pos (beq_iff_eq.mpr tied),
        List.reverse_cons, List.append_assoc]
      rfl
    · have apart : (cmp x y == .eq) = false := beq_eq_false_iff_ne.mpr tied
      rw [filter_insertFromEnd_of_apart (p := fun z => cmp x z == .eq) apart, List.filter_cons,
        apart, if_neg Bool.false_ne_true]

/-- Sorting leaves the elements that tie with an element in their order. -/
theorem filter_sort (xs : List α) :
    (sort (fun a b => cmp a b == .lt) xs).filter (fun z => cmp x z == .eq) =
      xs.filter fun z => cmp x z == .eq := by
  rw [sort, List.filter_reverse, filter_foldl_insertFromEnd, List.filter_nil, List.append_nil,
    List.reverse_reverse]

end Ties

end TableTalk.Listing

namespace TableTalk

namespace Direction

variable {direction : Direction} {a b : Value}

/-- Compares the places of two values in a direction. -/
def comparePlaces (direction : Direction) (a b : Value) : Ordering :=
  match direction with
  | .ascending => Value.comparePlaces a b
  | .descending => Value.comparePlaces b a

instance (direction : Direction) : Std.TransCmp direction.comparePlaces := by
  cases direction with
  | ascending => exact inferInstanceAs (Std.TransCmp Value.comparePlaces)
  | descending => exact inferInstanceAs (Std.TransCmp fun a b => Value.comparePlaces b a)

theorem precedes_eq (ha : a.isUnsized = false) (hb : b.isUnsized = false) :
    direction.precedes a b = (direction.comparePlaces a b == .lt) := by
  cases direction with
  | ascending => rw [precedes, comparePlaces, Value.compare_of_places ha hb]
  | descending =>
    rw [precedes, comparePlaces, Value.compare_of_places ha hb, Bool.eq_iff_iff, beq_iff_eq,
      beq_iff_eq]
    exact Std.OrientedCmp.gt_iff_lt

theorem comparePlaces_eq_eq_iff (ha : a.isUnsized = false) (hb : b.isUnsized = false) :
    direction.comparePlaces a b = .eq ↔ a.compare b = .eq := by
  rw [Value.compare_of_places ha hb]
  cases direction with
  | ascending => rfl
  | descending => exact Std.OrientedCmp.eq_comm

section Precedes

variable {c : Value} (ha : a.isUnsized = false) (hb : b.isUnsized = false)
  (hc : c.isUnsized = false)

include ha hb in
theorem precedes_iff : direction.precedes a b = true ↔ direction.comparePlaces a b = .lt := by
  rw [precedes_eq ha hb, beq_iff_eq]

include ha hb in
theorem not_precedes_of_tie (tied : a.compare b = .eq) : direction.precedes a b = false := by
  rw [← Bool.not_eq_true, precedes_iff ha hb, (comparePlaces_eq_eq_iff ha hb).mpr tied]
  decide

include ha hb in
theorem tie_or_precedes (h : direction.precedes b a = false) :
    a.compare b = .eq ∨ direction.precedes a b = true := by
  have hle : (direction.comparePlaces a b).isLE = true := by
    rw [← Std.OrientedCmp.isGE_iff_isLE, Ordering.isGE_iff_ne_lt]
    intro hlt
    rw [(precedes_iff hb ha).mpr hlt] at h
    cases h
  rw [precedes_iff ha hb, ← @comparePlaces_eq_eq_iff direction _ _ ha hb]
  exact (Ordering.isLE_iff_eq_lt_or_eq_eq.mp hle).symm

include ha hb hc in
theorem precedes_congr_right (tied : b.compare c = .eq) :
    direction.precedes a b = direction.precedes a c := by
  rw [precedes_eq ha hb, precedes_eq ha hc,
    Std.TransCmp.congr_right ((comparePlaces_eq_eq_iff hb hc).mpr tied)]

include ha hb hc in
theorem precedes_congr_left (tied : a.compare b = .eq) :
    direction.precedes a c = direction.precedes b c := by
  rw [precedes_eq ha hc, precedes_eq hb hc,
    Std.TransCmp.congr_left ((comparePlaces_eq_eq_iff ha hb).mpr tied)]

include ha hb hc in
theorem precedes_trans (hab : direction.precedes a b = true) (hbc : direction.precedes b c = true) :
    direction.precedes a c = true := by
  rw [precedes_iff ha hb] at hab
  rw [precedes_iff hb hc] at hbc
  rw [precedes_iff ha hc]
  exact Std.TransCmp.lt_trans hab hbc

end Precedes

/-- Nothing is sorted in front of what it comes after, and ties stay as they stood, provided that
all values have a place. -/
theorem pairwise_sort {α : Type} {value : α → Value} {earlier : α → α → Prop} {xs : List α}
    (sized : ∀ x ∈ xs, (value x).isUnsized = false) (stood : xs.Pairwise earlier) :
    (Listing.sort (fun a b => direction.precedes (value a) (value b)) xs).Pairwise fun a b =>
      direction.precedes (value b) (value a) = false ∧
        ((value a).compare (value b) = .eq → earlier a b) := by
  have htrans := Listing.transCmp_on direction.comparePlaces value
  rw [Listing.sort_congr fun x hx y hy => precedes_eq (sized x hx) (sized y hy)]
  refine (Listing.pairwise_sort stood).imp_of_mem fun {a b} ha hb hordered => ?_
  have hordered : Listing.InOrder (fun a b => direction.comparePlaces (value a) (value b)) earlier
    a b := hordered
  have ha := sized a (Listing.mem_sort.mp ha)
  have hb := sized b (Listing.mem_sort.mp hb)
  have htied := @comparePlaces_eq_eq_iff direction _ _ ha hb
  rw [precedes_eq hb ha, ← htied]
  constructor
  · have hge := hordered.isLE
    rw [← Std.OrientedCmp.isGE_iff_isLE, Ordering.isGE_iff_ne_lt] at hge
    simpa using hge
  · intro htie
    rcases hordered with hlt | ⟨-, hearlier⟩
    · cases htie.symm.trans hlt
    · exact hearlier

end Direction

namespace Series

variable {column : String} {direction : Direction} {rows : Dataset}

/-- The rows of a dataset stand in the order of a column: none comes before one that it follows, and
rows that tie stand as they stood. -/
structure IsStableSort (column : String) (direction : Direction) (rows sorted : Dataset) :
    Prop where
  perm : sorted.Perm rows
  ordered : sorted.Pairwise fun a b => direction.precedes (b.value column) (a.value column) = false
  ties : ∀ row ∈ rows,
    (sorted.filter fun other => (row.value column).compare (other.value column) == .eq) =
      rows.filter fun other => (row.value column).compare (other.value column) == .eq

theorem isStableSort_sortRows (direction : Direction)
    (sized : ∀ row ∈ rows, (row.value column).isUnsized = false) :
    IsStableSort column direction rows (sortRows column direction rows) where
  perm := Listing.sort_perm _ rows
  ordered :=
    (Direction.pairwise_sort sized (List.pairwise_of_forall fun _ _ => trivial)).imp fun h => h.1
  ties row hrow := by
    have htrans := Listing.transCmp_on direction.comparePlaces fun row : Row => row.value column
    have htie : ∀ other ∈ rows, ((row.value column).compare (other.value column) == .eq) =
        (direction.comparePlaces (row.value column) (other.value column) == .eq) := by
      intro other hother
      rw [Bool.eq_iff_iff, beq_iff_eq, beq_iff_eq,
        Direction.comparePlaces_eq_eq_iff (sized row hrow) (sized other hother)]
    rw [sortRows, List.filter_congr fun other hother => htie other (Listing.mem_sort.mp hother),
      List.filter_congr htie,
      Listing.sort_congr fun a ha b hb => Direction.precedes_eq (sized a ha) (sized b hb)]
    exact @Listing.filter_sort Row _ htrans row rows

end Series

end TableTalk
