import Mathlib.Data.List.Pairwise
import TableTalk.Proofs.Decimal.Exact
import TableTalk.Proofs.Engine.Windows
import TableTalk.Series.Ranking

/-!
# Ranks as counts

Ranks are computed by comparing rows that stand next to each other. They can also be read off
the keys alone: the rank of a key counts the keys in front of it, and its rank without gaps
counts the different ones among them. Row by row the counts go up exactly where two
neighbours do not tie.
-/

namespace TableTalk

namespace Value

variable {a b : Value} {values others once : List Value}

/-- The number of different values, where values that tie count once. -/
def countDistinct (values : List Value) : ℕ :=
  (values.pwFilter fun a b => a.compare b ≠ .eq).length

/-- One value out of every tie among some values. -/
structure OneOfEach (values once : List Value) : Prop where
  apart : once.Pairwise fun a b => a.compare b ≠ .eq
  among : ∀ a ∈ once, a ∈ values
  covers : ∀ a ∈ values, ∃ b ∈ once, b.compare a = .eq

theorem compare_eq_comm : a.compare b = .eq ↔ b.compare a = .eq := by
  rw [compare_swap a b, Ordering.swap_eq_eq]

theorem oneOfEach_pwFilter (values : List Value) :
    OneOfEach values (values.pwFilter fun a b => a.compare b ≠ .eq) where
  apart := List.pairwise_pwFilter values
  among a h := List.pwFilter_subset values h
  covers := by
    induction values with
    | nil => simp
    | cons a values ih =>
      by_cases h : ∀ b ∈ values.pwFilter (fun a b => a.compare b ≠ .eq), a.compare b ≠ .eq
      · rw [List.pwFilter_cons_of_pos h, List.forall_mem_cons]
        refine ⟨⟨a, List.mem_cons_self, compare_self a⟩, fun c hc => ?_⟩
        obtain ⟨b, hb, htied⟩ := ih c hc
        exact ⟨b, List.mem_cons_of_mem a hb, htied⟩
      · rw [List.pwFilter_cons_of_neg h, List.forall_mem_cons]
        push Not at h
        obtain ⟨b, hb, htied⟩ := h
        exact ⟨⟨b, hb, compare_eq_comm.mp htied⟩, ih⟩

/-- The place of a value among all values. -/
def place (value : Value) : ℕ × ℤ × String := (value.rank, value.size, value.spelling)

theorem compare_eq_eq_iff (ha : a.isUnsized = false) (hb : b.isUnsized = false) :
    a.compare b = .eq ↔ a.place = b.place := by
  rw [compare_of_places ha hb, comparePlaces, compareLex_eq_eq, compareLex_eq_eq]
  simp [compareOn, place]

theorem OneOfEach.length_eq (sized : ∀ a ∈ values, a.isUnsized = false)
    (h : OneOfEach values once) (hothers : OneOfEach values others) :
    once.length = others.length := by
  have hnodup {list : List Value} (hlist : OneOfEach values list) : (list.map place).Nodup := by
    rw [List.Nodup, List.pairwise_map]
    refine hlist.apart.imp_of_mem fun ha hb hne he => hne ?_
    exact (compare_eq_eq_iff (sized _ (hlist.among _ ha)) (sized _ (hlist.among _ hb))).mpr he
  have hsubset {list other : List Value} (hlist : OneOfEach values list)
      (hother : OneOfEach values other) : list.map place ⊆ other.map place := by
    intro p hp
    obtain ⟨a, ha, rfl⟩ := List.mem_map.mp hp
    obtain ⟨b, hb, htied⟩ := hother.covers a (hlist.among a ha)
    have hsized := And.intro (sized b (hother.among b hb)) (sized a (hlist.among a ha))
    exact List.mem_map.mpr ⟨b, hb, (compare_eq_eq_iff hsized.1 hsized.2).mp htied⟩
  have hperm : (once.map place).Perm (others.map place) :=
    (List.perm_ext_iff_of_nodup (hnodup h) (hnodup hothers)).mpr fun p =>
      ⟨fun hp => hsubset h hothers hp, fun hp => hsubset hothers h hp⟩
  simpa using hperm.length_eq

theorem countDistinct_eq (sized : ∀ a ∈ values, a.isUnsized = false)
    (h : OneOfEach values once) : countDistinct values = once.length :=
  (oneOfEach_pwFilter values).length_eq sized h

end Value

namespace Series

variable {direction : Direction} {gaps : Gaps} {keys others before after : List Value}
  {previous key other : Value}

/-- The rank of a key among others: one more than the number of those in front of it. -/
def rankAmong (direction : Direction) (keys : List Value) (key : Value) : ℕ :=
  (keys.filter (direction.precedes · key)).length + 1

/-- The rank of a key among others where ties count once. -/
def denseRankAmong (direction : Direction) (keys : List Value) (key : Value) : ℕ :=
  Value.countDistinct (keys.filter (direction.precedes · key)) + 1

/-- The rank that leaves gaps after ties or closes them. -/
def rankBy (direction : Direction) (keys : List Value) : Gaps → Value → ℕ
  | .skipped => rankAmong direction keys
  | .closed => denseRankAmong direction keys

/-- Keys that have places, in the order of a direction. -/
structure Ordered (direction : Direction) (keys : List Value) : Prop where
  sized : ∀ key ∈ keys, key.isUnsized = false
  ordered : keys.Pairwise fun a b => direction.precedes b a = false

section Neighbours

/-- Neither a key nor what follows it stands in front of the key. -/
theorem filter_precedes (sorted : Ordered direction (before ++ key :: after)) :
    (before ++ key :: after).filter (direction.precedes · key) =
      before.filter (direction.precedes · key) := by
  have hkey := sorted.sized key (by simp)
  have hafter := (List.pairwise_cons.mp (List.pairwise_append.mp sorted.ordered).2.1).1
  have hnone : ∀ other ∈ key :: after, ¬ direction.precedes other key = true := by
    rw [List.forall_mem_cons, Direction.not_precedes_of_tie hkey hkey (Value.compare_self key)]
    refine ⟨Bool.false_ne_true, fun other h => ?_⟩
    rw [hafter other h]
    exact Bool.false_ne_true
  rw [List.filter_append, List.filter_eq_nil_iff.mpr hnone, List.append_nil]

variable (sorted : Ordered direction (before ++ previous :: key :: after))

include sorted

theorem sized_neighbours : previous.isUnsized = false ∧ key.isUnsized = false :=
  ⟨sorted.sized previous (by simp), sorted.sized key (by simp)⟩

theorem sized_before (h : other ∈ before ++ [previous]) : other.isUnsized = false :=
  sorted.sized other (by simp at h ⊢; tauto)

theorem tie_or_precedes_previous (h : other ∈ before ++ [previous]) :
    previous.compare other = .eq ∨ direction.precedes other previous = true := by
  rcases List.mem_append.mp h with hbefore | hprevious
  · have hother := sorted.sized other (by simp [hbefore])
    have hacross := (List.pairwise_append.mp sorted.ordered).2.2 other hbefore previous (by simp)
    rw [Value.compare_eq_comm]
    exact Direction.tie_or_precedes hother (sized_neighbours sorted).1 hacross
  · obtain rfl := List.mem_singleton.mp hprevious
    exact Or.inl (Value.compare_self other)

/-- A key that ties with the one before it has the same keys in front of it. -/
theorem filter_precedes_of_tie (tied : previous.compare key = .eq) :
    (before ++ previous :: key :: after).filter (direction.precedes · key) =
      (before ++ previous :: key :: after).filter (direction.precedes · previous) := by
  obtain ⟨hprevious, hkey⟩ := sized_neighbours sorted
  exact List.filter_congr fun other h =>
    (Direction.precedes_congr_right (sorted.sized other h) hprevious hkey tied).symm

/-- A key that does not tie with the one before it has all keys up to there in front of it. -/
theorem filter_precedes_of_apart (apart : previous.compare key ≠ .eq) :
    (before ++ previous :: key :: after).filter (direction.precedes · key) =
      before ++ [previous] := by
  obtain ⟨hprevious, hkey⟩ := sized_neighbours sorted
  have hfirst := (List.pairwise_cons.mp (List.pairwise_append.mp sorted.ordered).2.1).1
  have hnext : direction.precedes previous key = true :=
    (Direction.tie_or_precedes hprevious hkey (hfirst key (by simp))).resolve_left apart
  have hfront : ∀ other ∈ before ++ [previous], direction.precedes other key = true := by
    intro other h
    have hother := sized_before sorted h
    rcases tie_or_precedes_previous sorted h with htied | hlt
    · rwa [← Direction.precedes_congr_left hprevious hother hkey htied]
    · exact Direction.precedes_trans hother hprevious hkey hlt hnext
  rw [List.append_cons, filter_precedes (by rwa [← List.append_cons]),
    List.filter_eq_self.mpr hfront]

/-- Together with one key out of every tie in front of it, a key makes one out of every tie up to
it. -/
theorem oneOfEach_cons {once : List Value} (apart : previous.compare key ≠ .eq)
    (each : Value.OneOfEach
      ((before ++ previous :: key :: after).filter (direction.precedes · previous)) once) :
    Value.OneOfEach (before ++ [previous]) (previous :: once) := by
  obtain ⟨hprevious, hkey⟩ := sized_neighbours sorted
  have hfront := filter_precedes_of_apart sorted apart
  constructor
  case apart =>
    refine List.pairwise_cons.mpr ⟨fun other h htied => ?_, each.apart⟩
    obtain ⟨hother, hlt⟩ := List.mem_filter.mp (each.among other h)
    rw [Direction.not_precedes_of_tie (sorted.sized other hother) hprevious
      (Value.compare_eq_comm.mp htied)] at hlt
    cases hlt
  case among =>
    rw [List.forall_mem_cons]
    refine ⟨by simp, fun other h => ?_⟩
    -- what is in front of the previous key is in front of the next one
    obtain ⟨hother, hlt⟩ := List.mem_filter.mp (each.among other h)
    have hnext := List.mem_filter.mp (hfront ▸ List.mem_append_right before List.mem_cons_self)
    rw [← hfront]
    exact List.mem_filter.mpr ⟨hother,
      Direction.precedes_trans (sorted.sized other hother) hprevious hkey hlt hnext.2⟩
  case covers =>
    intro other h
    rcases tie_or_precedes_previous sorted h with htied | hlt
    · exact ⟨previous, List.mem_cons_self, htied⟩
    · have hmem : other ∈ before ++ previous :: key :: after := by simp at h ⊢; tauto
      obtain ⟨one, hone, htied⟩ := each.covers other (List.mem_filter.mpr ⟨hmem, hlt⟩)
      exact ⟨one, List.mem_cons_of_mem previous hone, htied⟩

theorem denseRankAmong_of_apart (apart : previous.compare key ≠ .eq) :
    denseRankAmong direction (before ++ previous :: key :: after) key =
      denseRankAmong direction (before ++ previous :: key :: after) previous + 1 := by
  have heach := oneOfEach_cons sorted apart (Value.oneOfEach_pwFilter _)
  rw [denseRankAmong, denseRankAmong, filter_precedes_of_apart sorted apart,
    Value.countDistinct_eq (fun other h => sized_before sorted h) heach, List.length_cons]
  rfl

theorem rankBy_next (gaps : Gaps) :
    rankBy direction (before ++ previous :: key :: after) gaps key =
      if previous.compare key == .eq then
        rankBy direction (before ++ previous :: key :: after) gaps previous
      else
        match gaps with
        | .skipped => before.length + 1 + 1
        | .closed => rankBy direction (before ++ previous :: key :: after) gaps previous + 1 := by
  by_cases tied : previous.compare key = .eq
  case pos =>
    rw [if_pos (beq_iff_eq.mpr tied)]
    cases gaps with
    | skipped => rw [rankBy, rankAmong, rankAmong, filter_precedes_of_tie sorted tied]
    | closed => rw [rankBy, denseRankAmong, denseRankAmong, filter_precedes_of_tie sorted tied]
  case neg =>
    rw [if_neg fun h => tied (beq_iff_eq.mp h)]
    cases gaps with
    | skipped =>
      rw [rankBy, rankAmong, filter_precedes_of_apart sorted tied, List.length_append]
      rfl
    | closed => exact denseRankAmong_of_apart sorted tied

end Neighbours

theorem rankBy_head (sorted : Ordered direction (key :: after)) :
    rankBy direction (key :: after) gaps key = 1 := by
  have hnone : (key :: after).filter (direction.precedes · key) = [] :=
    @filter_precedes _ [] _ _ sorted
  cases gaps with
  | skipped => rw [rankBy, rankAmong, hnone, List.length_nil]
  | closed =>
    rw [rankBy, denseRankAmong, hnone]
    rfl

theorem ranksAfter_eq (gaps : Gaps) (sorted : Ordered direction (before ++ previous :: after)) :
    ranksAfter gaps previous (before.length + 1)
        (rankBy direction (before ++ previous :: after) gaps previous) after =
      after.map (rankBy direction (before ++ previous :: after) gaps) := by
  induction after generalizing before previous with
  | nil => rfl
  | cons key after ih =>
    have hrest := @ih (before ++ [previous]) key (by rwa [← List.append_cons])
    rw [← List.append_cons, List.length_append, List.length_singleton] at hrest
    have hnext := rankBy_next sorted gaps
    rw [List.map_cons, ← hrest, hnext]
    rfl

/-- The ranks of keys in their order are counts. -/
theorem ranks_eq (gaps : Gaps) (sorted : Ordered direction keys) :
    ranks gaps keys = keys.map (rankBy direction keys gaps) := by
  cases keys with
  | nil => rfl
  | cons key after =>
    have hhead : rankBy direction (key :: after) gaps key = 1 := rankBy_head sorted
    have hrest := @ranksAfter_eq _ [] _ _ gaps sorted
    rw [List.nil_append, List.length_nil, hhead] at hrest
    rw [ranks, List.map_cons, hhead, hrest]

section Counts

variable (sized : ∀ key ∈ keys, key.isUnsized = false)

include sized

/-- Counting does not depend on the order of the keys. -/
theorem rankBy_perm (direction : Direction) (gaps : Gaps) (perm : keys.Perm others) :
    rankBy direction keys gaps = rankBy direction others gaps := by
  funext key
  have hfilter := perm.filter (direction.precedes · key)
  cases gaps with
  | skipped => rw [rankBy, rankBy, rankAmong, rankAmong, hfilter.length_eq]
  | closed =>
    have heach := Value.oneOfEach_pwFilter (others.filter (direction.precedes · key))
    have hsame : Value.OneOfEach (keys.filter (direction.precedes · key)) _ :=
      ⟨heach.apart, fun a h => hfilter.mem_iff.mpr (heach.among a h),
        fun a h => heach.covers a (hfilter.mem_iff.mp h)⟩
    have hsized : ∀ a ∈ keys.filter (direction.precedes · key), a.isUnsized = false :=
      fun a h => sized a (List.mem_of_mem_filter h)
    rw [rankBy, rankBy, denseRankAmong, denseRankAmong, Value.countDistinct_eq hsized hsame]
    rfl

theorem rankBy_tied {a b : Value} (ha : a ∈ keys) (hb : b ∈ keys) (tied : a.compare b = .eq) :
    rankBy direction keys gaps a = rankBy direction keys gaps b := by
  have hfilter : keys.filter (direction.precedes · a) = keys.filter (direction.precedes · b) :=
    List.filter_congr fun other h =>
      Direction.precedes_congr_right (sized other h) (sized a ha) (sized b hb) tied
  cases gaps with
  | skipped => rw [rankBy, rankAmong, rankAmong, hfilter]
  | closed => rw [rankBy, denseRankAmong, denseRankAmong, hfilter]

end Counts

theorem denseRankAmong_le (direction : Direction) (keys : List Value) (key : Value) :
    denseRankAmong direction keys key ≤ rankAmong direction keys key :=
  Nat.succ_le_succ (List.pwFilter_sublist _).length_le

theorem rankAmong_le_length (sized : ∀ key ∈ keys, key.isUnsized = false) (h : key ∈ keys) :
    rankAmong direction keys key ≤ keys.length := by
  have hself : direction.precedes key key = false :=
    Direction.not_precedes_of_tie (sized key h) (sized key h) (Value.compare_self key)
  exact List.length_filter_lt_length_iff_exists.mpr ⟨key, h, ne_true_of_eq_false hself⟩

theorem rankAmong_le_succ (sorted : Ordered direction keys) {i : ℕ} (h : keys[i]? = some key) :
    rankAmong direction keys key ≤ i + 1 := by
  obtain ⟨hi, rfl⟩ := List.getElem?_eq_some_iff.mp h
  have hsplit : keys = keys.take i ++ keys[i] :: keys.drop (i + 1) := by
    rw [List.getElem_cons_drop, List.take_append_drop]
  have hfront : keys.filter (direction.precedes · keys[i]) =
      (keys.take i).filter (direction.precedes · keys[i]) := by
    have hall := @filter_precedes direction (keys.take i) (keys.drop (i + 1)) keys[i]
    rw [← hsplit] at hall
    exact hall sorted
  rw [rankAmong, hfront]
  exact Nat.succ_le_succ ((List.length_filter_le _ _).trans (List.length_take_le i keys))

/-- Ranks without gaps start at one and go up by one from a key to the next. -/
theorem exists_denseRank (sorted : Ordered direction keys) (h : key ∈ keys) {rank : ℕ}
    (pos : 0 < rank) (le : rank ≤ denseRankAmong direction keys key) :
    ∃ other ∈ keys, denseRankAmong direction keys other = rank := by
  obtain ⟨before, after, split⟩ := List.append_of_mem h
  clear h
  induction before using List.reverseRecOn generalizing key after with
  | nil =>
    subst split
    have hhead : denseRankAmong direction (key :: after) key = 1 :=
      @rankBy_head _ .closed _ _ sorted
    rw [List.nil_append, hhead] at le
    exact ⟨key, by simp, hhead.trans (by omega)⟩
  | append_singleton before previous ih =>
    rw [← List.append_cons] at split
    by_cases hle : rank ≤ denseRankAmong direction keys previous
    · exact ih hle _ split
    · have hnext : denseRankAmong direction keys key =
          if previous.compare key == .eq then denseRankAmong direction keys previous
          else denseRankAmong direction keys previous + 1 := by
        subst split
        exact rankBy_next sorted .closed
      refine ⟨key, by simp [split], ?_⟩
      split at hnext <;> omega

section Rows

variable {column : String} {rows sorted : Dataset}

theorem attach_map (target : String) (figure : Row → Value) (rows : Dataset) :
    attach target (rows.map figure) rows = rows.map fun row => row.insert target (figure row) := by
  rw [attach, List.zipWith_map_right, List.zipWith_self]

theorem IsStableSort.ordered_keys (h : IsStableSort column direction rows sorted)
    (sized : ∀ row ∈ rows, (row.value column).isUnsized = false) :
    Ordered direction (sorted.map fun row => row.value column) where
  sized key hkey := by
    obtain ⟨row, hrow, rfl⟩ := List.mem_map.mp hkey
    exact sized row (h.perm.mem_iff.mp hrow)
  ordered := List.pairwise_map.mpr h.ordered

/-- Ranks are put into the sorted rows as counts of keys. -/
theorem rankInto_eq (sized : ∀ row ∈ rows, (row.value column).isUnsized = false) (target : String)
    (gaps : Gaps) (toValue : ℕ → Value) :
    let keys := rows.map fun row => row.value column
    rankInto target gaps toValue column direction rows =
      (sortRows column direction rows).map fun row =>
        row.insert target (toValue (rankBy direction keys gaps (row.value column))) := by
  intro keys
  have hstable := isStableSort_sortRows direction sized
  have hordered := hstable.ordered_keys sized
  have hperm := rankBy_perm hordered.sized direction gaps
    (hstable.perm.map fun row => row.value column)
  rw [rankInto, ranks_eq gaps hordered, hperm, List.map_map, List.map_map]
  exact attach_map target _ _

theorem rowNumber_eq (column : String) (direction : Direction) (rows : Dataset) :
    rowNumber column direction rows = (sortRows column direction rows).mapIdx
      fun i row => row.insert "row_number" (count (i + 1)) := by
  refine List.ext_getElem (by simp [rowNumber, attach]) fun i _ _ => ?_
  simp [rowNumber, attach]

/-- A percent rank is the number nearest to the share of the rows after the first that stand in
front. -/
theorem isNearest_percentRankOf {total rank : ℕ} (pos : 0 < rank) (le : rank ≤ total)
    (small : total ≤ 2 ^ 53) : ∃ x, percentRankOf total rank = .float x ∧
      Decimal.IsNearest ((rank - 1 : ℕ) / (total - 1 : ℕ)) x := by
  refine ⟨_, rfl, ?_⟩
  split
  case isTrue hone =>
    rw [show total - 1 = 0 by omega, Nat.cast_zero, div_zero]
    exact Decimal.isNearest_zero (by decide)
  case isFalse hmany => exact Decimal.isNearest_div_ofNat (by omega) (by omega) (by omega)

/-- Ranks are what they count. All four functions return the rows in the order of the column, ties
as they stood, and tell each row how many rows it is preceded by: with its own place, by the number
of rows in front of it, by the number of different keys among them, or by the share of the other
rows that they make up. -/
theorem ranks_count_rows_in_front (column : String) (direction : Direction) (rows : Dataset)
    (sized : ∀ row ∈ rows, (row.value column).isUnsized = false) :
    let keys := rows.map fun row => row.value column
    let rankOf (row : Row) : ℕ := rankAmong direction keys (row.value column)
    let denseRankOf (row : Row) : ℕ := denseRankAmong direction keys (row.value column)
    ∃ sorted, IsStableSort column direction rows sorted ∧
      rowNumber column direction rows =
        sorted.mapIdx (fun i row => row.insert "row_number" (count (i + 1))) ∧
      rank column direction rows = sorted.map (fun row => row.insert "rank" (count (rankOf row))) ∧
      denseRank column direction rows =
        sorted.map (fun row => row.insert "dense_rank" (count (denseRankOf row))) ∧
      percentRank column direction rows =
        sorted.map (fun row => row.insert "percent_rank" (percentRankOf rows.length (rankOf row))) ∧
      (rows.length ≤ 2 ^ 53 → ∀ row ∈ rows, ∃ x, percentRankOf rows.length (rankOf row) = .float x ∧
        Decimal.IsNearest ((rankOf row - 1 : ℕ) / (rows.length - 1 : ℕ)) x) ∧
      (∀ i row, sorted[i]? = some row → denseRankOf row ≤ rankOf row ∧ rankOf row ≤ i + 1) ∧
      (∀ a ∈ rows, ∀ b ∈ rows, (a.value column).compare (b.value column) = .eq →
        rankOf a = rankOf b ∧ denseRankOf a = denseRankOf b) ∧
      (∀ row ∈ rows, ∀ n, 0 < n → n ≤ denseRankOf row → ∃ other ∈ rows, denseRankOf other = n) := by
  intro keys rankOf denseRankOf
  have hstable := isStableSort_sortRows direction sized
  have hordered := hstable.ordered_keys sized
  have hkeys : keys.Perm ((sortRows column direction rows).map fun row => row.value column) :=
    (hstable.perm.map _).symm
  have hsized : ∀ key ∈ keys, key.isUnsized = false := by simpa [keys] using sized
  have hmem {row : Row} (h : row ∈ rows) : row.value column ∈ keys := List.mem_map_of_mem h
  have hrank : ∀ row, rankOf row = rankAmong direction _ (row.value column) := fun row =>
    congrFun (rankBy_perm hsized direction .skipped hkeys) _
  have hdense : ∀ row, denseRankOf row = denseRankAmong direction _ (row.value column) := fun row =>
    congrFun (rankBy_perm hsized direction .closed hkeys) _
  refine ⟨_, hstable, rowNumber_eq column direction rows, rankInto_eq sized _ .skipped _,
    rankInto_eq sized _ .closed _, rankInto_eq sized _ .skipped _, ?_, ?_, ?_, ?_⟩
  · intro small row hrow
    have hle : rankOf row ≤ keys.length := rankAmong_le_length hsized (hmem hrow)
    rw [List.length_map] at hle
    exact isNearest_percentRankOf (Nat.succ_pos _) hle small
  · intro i row hrow
    refine ⟨denseRankAmong_le direction keys _, ?_⟩
    rw [hrank]
    exact rankAmong_le_succ hordered (by rw [List.getElem?_map, hrow, Option.map_some])
  · intro a ha b hb htied
    exact ⟨@rankBy_tied _ .skipped _ hsized _ _ (hmem ha) (hmem hb) htied,
      @rankBy_tied _ .closed _ hsized _ _ (hmem ha) (hmem hb) htied⟩
  · intro row hrow n hpos hle
    rw [hdense] at hle
    obtain ⟨other, hother, rfl⟩ := exists_denseRank hordered (hkeys.mem_iff.mp (hmem hrow)) hpos hle
    obtain ⟨found, hfound, rfl⟩ := List.mem_map.mp (hkeys.mem_iff.mpr hother)
    exact ⟨found, hfound, hdense found⟩

/-- Two scores of different kinds that tie, a score that is no number and one that is missing. -/
def scores : Dataset :=
  [.ofCells [("team", .text "red"), ("score", .integer 7)],
   .ofCells [("team", .text "blue"), ("score", .null)],
   .ofCells [("team", .text "green"), ("score", .float 7.0)],
   .ofCells [("team", .text "white"), ("score", .text "none")]]

theorem scores_share_ranks :
    let keys := scores.map fun row => row.value "score"
    let rankOf (row : Row) : ℕ := rankAmong .descending keys (row.value "score")
    let denseRankOf (row : Row) : ℕ := denseRankAmong .descending keys (row.value "score")
    (∀ row ∈ scores, (row.value "score").isUnsized = false) ∧
    scores.map rankOf = [2, 4, 2, 1] ∧ scores.map denseRankOf = [2, 3, 2, 1] ∧
    ∃ sorted, IsStableSort "score" .descending scores sorted ∧
      rank "score" .descending scores =
        sorted.map (fun row => row.insert "rank" (count (rankOf row))) ∧
      denseRank "score" .descending scores =
        sorted.map (fun row => row.insert "dense_rank" (count (denseRankOf row))) ∧
      ∀ row ∈ scores, ∃ x, percentRankOf scores.length (rankOf row) = .float x ∧
        Decimal.IsNearest ((rankOf row - 1 : ℕ) / (scores.length - 1 : ℕ)) x := by
  intro keys rankOf denseRankOf
  have sized : ∀ row ∈ scores, (row.value "score").isUnsized = false := by decide +kernel
  obtain ⟨sorted, hstable, -, hrank, hdense, -, hpercent, -⟩ :=
    ranks_count_rows_in_front "score" .descending scores sized
  exact ⟨sized, by decide +kernel, by decide +kernel, sorted, hstable, hrank, hdense,
    hpercent (by decide)⟩

end Rows

end Series

end TableTalk
