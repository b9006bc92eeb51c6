import Mathlib.Data.List.Range
import Mathlib.Data.Rat.Floor
import Mathlib.Data.UInt
import TableTalk.Proofs.Engine.Windows
import TableTalk.Series.Ranking

/-!
# Buckets of rows

Rows are split, as they stand, into buckets of one size: as many rows as there are for each
bucket, rounded up. The label of a row counts how often the size fits in front of it, so the
labels go up by one after every full bucket and only the last one may have fewer rows. Since
the size is rounded up, there are no more buckets than asked for. All this holds of the
steps in words of 64 bits too, as no step leaves their range.
-/

namespace TableTalk.Series

variable {total buckets size index label : ℕ}

/-- The labels of rows that are split into buckets. -/
def labels (total buckets : ℕ) : List ℕ :=
  (List.range total).map fun i => i / bucketSize total buckets + 1

section Sizes

theorem bucketSize_pos (total buckets : ℕ) : 0 < bucketSize total buckets :=
  lt_max_of_lt_right Nat.one_pos

/-- Buckets of this size hold all rows, buckets that are smaller by one do not. -/
theorem bucketSize_bounds (pos : 0 < total) (buckets : ℕ) :
    (bucketSize total buckets - 1) * max buckets 1 < total ∧
      total ≤ bucketSize total buckets * max buckets 1 := by
  have hparts : 0 < max buckets 1 := lt_max_of_lt_right Nat.one_pos
  rw [bucketSize]
  generalize max buckets 1 = parts at hparts ⊢
  have hfull := Nat.div_mul_le_self (total + (parts - 1)) parts
  have hrest := Nat.lt_div_mul_add (a := total + (parts - 1)) hparts
  have hquotient : 1 ≤ (total + (parts - 1)) / parts :=
    (Nat.le_div_iff_mul_le hparts).mpr (by omega)
  rw [Nat.max_eq_left hquotient]
  generalize hq : (total + (parts - 1)) / parts = q at *
  rw [Nat.sub_mul, one_mul]
  omega

/-- The size of a bucket is the number of rows for each bucket, rounded up. -/
theorem bucketSize_eq_ceil (pos : 0 < total) (buckets : ℕ) :
    bucketSize total buckets = ⌈(total / max buckets 1 : ℚ)⌉₊ := by
  obtain ⟨hlower, hupper⟩ := bucketSize_bounds pos buckets
  have hparts : (0 : ℚ) < (max buckets 1 : ℕ) := Nat.cast_pos.mpr (lt_max_of_lt_right Nat.one_pos)
  refine ((Nat.ceil_eq_iff (bucketSize_pos total buckets).ne').mpr ⟨?_, ?_⟩).symm
  · rw [lt_div_iff₀ hparts]
    exact_mod_cast hlower
  · rw [div_le_iff₀ hparts]
    exact_mod_cast hupper

theorem label_le (h : index < total) (buckets : ℕ) :
    index / bucketSize total buckets + 1 ≤ max buckets 1 := by
  have hupper := (bucketSize_bounds (Nat.zero_lt_of_lt h) buckets).2
  rw [mul_comm] at hupper
  exact (Nat.div_lt_iff_lt_mul (bucketSize_pos total buckets)).mpr (h.trans_le hupper)

end Sizes

section Labels

/-- The places that a size fits in front of a given number of times are a run. -/
theorem countP_div_eq (pos : 0 < size) (total k : ℕ) :
    ((List.range total).countP fun i => i / size = k) =
      min total ((k + 1) * size) - k * size := by
  induction total with
  | zero => rw [List.range_zero, List.countP_nil, Nat.zero_min, Nat.zero_sub]
  | succ n ih =>
    have hiff : n / size = k ↔ k * size ≤ n ∧ n < (k + 1) * size := by
      rw [Nat.div_eq_iff pos, Nat.succ_mul]
      omega
    rw [List.range_succ, List.countP_append, ih, List.countP_singleton]
    simp only [decide_eq_true_eq, hiff, Nat.succ_mul]
    split <;> omega

theorem length_labels (total buckets : ℕ) : (labels total buckets).length = total := by
  rw [labels, List.length_map, List.length_range]

theorem getElem_labels (h : index < (labels total buckets).length) :
    (labels total buckets)[index] = index / bucketSize total buckets + 1 := by
  simp only [labels, List.getElem_map, List.getElem_range]

theorem head?_labels (pos : 0 < total) (buckets : ℕ) :
    (labels total buckets).head? = some 1 := by
  rw [labels, List.head?_map, List.head?_range, if_neg pos.ne', Option.map_some, Nat.zero_div]

theorem count_labels (total buckets k : ℕ) :
    (labels total buckets).count (k + 1) =
      min total ((k + 1) * bucketSize total buckets) - k * bucketSize total buckets := by
  rw [labels, List.count_eq_countP, List.countP_map, ← countP_div_eq (bucketSize_pos total buckets)]
  refine List.countP_congr fun i _ => ?_
  simp only [Function.comp_apply, beq_iff_eq, Nat.add_right_cancel_iff, decide_eq_true_eq]

theorem pos_of_getLast? {last : ℕ} (h : (labels total buckets).getLast? = some last) :
    0 < total := by
  rcases Nat.eq_zero_or_pos total with rfl | pos
  · cases h
  · exact pos

/-- All buckets in front of the last one are full, and that one has a row at least. -/
theorem counts_of_getLast? {last : ℕ} (h : (labels total buckets).getLast? = some last) :
    (∀ label, 1 ≤ label → label < last →
      (labels total buckets).count label = bucketSize total buckets) ∧
    1 ≤ (labels total buckets).count last ∧
    (labels total buckets).count last ≤ bucketSize total buckets := by
  have htotal := pos_of_getLast? h
  have hsize := bucketSize_pos total buckets
  rw [labels, List.getLast?_map, List.getLast?_range, if_neg htotal.ne', Option.map_some,
    Option.some.injEq] at h
  subst h
  constructor
  · intro label hlabel hless
    obtain ⟨k, rfl⟩ := Nat.exists_eq_add_of_le' hlabel
    have hfull := (Nat.le_div_iff_mul_le hsize).mp (Nat.lt_succ_iff.mp hless)
    rw [count_labels, Nat.min_eq_right (by omega), Nat.succ_mul, Nat.add_sub_cancel_left]
  · have hfront := Nat.div_mul_le_self (total - 1) (bucketSize total buckets)
    have hbehind := Nat.lt_div_mul_add (a := total - 1) hsize
    rw [count_labels, Nat.succ_mul]
    omega

theorem isChain_labels (total buckets : ℕ) :
    (labels total buckets).IsChain fun a b => b = a ∨ b = a + 1 := by
  rw [labels, List.isChain_map, List.isChain_range]
  intro i _
  rw [Nat.succ_eq_add_one, Nat.succ_div]
  split
  · exact Or.inr rfl
  · exact Or.inl rfl

end Labels

section Words

/-- The quotient of two words, unless the second is zero. -/
def quotient? (a b : UInt64) : Option UInt64 :=
  if b = 0 then none else some (a / b)

/-- The quotient of two words rounded up, unless the second is zero or there is no next word. -/
def ceilQuotient? (a b : UInt64) : Option UInt64 := do
  let whole ← quotient? a b
  if a % b = 0 then some whole
  else if whole.toNat + 1 < UInt64.size then some (whole + 1)
  else none

/-- The next signed word, unless there is none. -/
def next? (a : Int64) : Option Int64 :=
  if a < Int64.maxValue then some (a + 1) else none

/-- The label of the row at a place, calculated in words of 64 bits. There is none if a step divides
by zero or leaves the range of words. -/
def wordLabel? (total buckets index : UInt64) : Option Int64 := do
  let size ← ceilQuotient? total (max buckets 1)
  let bucket ← quotient? index (max size 1)
  next? bucket.toInt64

theorem quotient?_eq {a b : UInt64} (pos : 0 < b.toNat) :
    ∃ c, quotient? a b = some c ∧ c.toNat = a.toNat / b.toNat := by
  have hne : b ≠ 0 := by
    rintro rfl
    exact pos.ne rfl
  exact ⟨a / b, if_neg hne, UInt64.toNat_div a b⟩

theorem ceilQuotient?_eq {a b : UInt64} (pos : 0 < b.toNat) (small : a.toNat < 2 ^ 63) :
    ∃ c, ceilQuotient? a b = some c ∧ c.toNat = (a.toNat + (b.toNat - 1)) / b.toNat := by
  obtain ⟨whole, hwhole, hvalue⟩ := quotient?_eq (a := a) pos
  have hle : whole.toNat ≤ a.toNat := hvalue ▸ Nat.div_le_self a.toNat b.toNat
  have hdivision := Nat.div_add_mod a.toNat b.toNat
  have hless := Nat.mod_lt a.toNat pos
  rw [ceilQuotient?, hwhole, Option.bind_eq_bind, Option.bind_some]
  split
  case isTrue hrest =>
    have hzero : a.toNat % b.toNat = 0 := by rw [← UInt64.toNat_mod, hrest]; rfl
    refine ⟨whole, rfl, ?_⟩
    rw [hvalue, eq_comm, Nat.div_eq_iff pos]
    rw [mul_comm] at hdivision
    omega
  case isFalse hrest =>
    have hpos : 0 < a.toNat % b.toNat := by
      rw [← UInt64.toNat_mod]
      exact Nat.pos_of_ne_zero fun h => hrest (UInt64.toNat_inj.mp h)
    have hnext : whole.toNat + 1 < UInt64.size := by
      have hsize : UInt64.size = 2 ^ 64 := rfl
      omega
    have hsum : (whole + 1).toNat = whole.toNat + 1 := by
      rw [UInt64.toNat_add]
      exact Nat.mod_eq_of_lt hnext
    rw [if_pos hnext]
    refine ⟨whole + 1, rfl, ?_⟩
    rw [hsum, hvalue, eq_comm, Nat.div_eq_iff pos, Nat.succ_mul]
    rw [mul_comm] at hdivision
    omega

theorem next?_toInt64 {a : UInt64} (small : a.toNat + 1 < 2 ^ 63) :
    ∃ c, next? a.toInt64 = some c ∧ c.toInt = (a.toNat + 1 : ℕ) := by
  have hcast : a.toInt64 = Int64.ofNat a.toNat := by
    rw [← UInt64.toInt64_ofNat', UInt64.ofNat_toNat]
  have hless : a.toInt64 < Int64.maxValue := by
    rw [Int64.lt_iff_toInt_lt, hcast, Int64.toInt_ofNat_of_lt (by omega), Int64.toInt_maxValue]
    omega
  refine ⟨Int64.ofNat (a.toNat + 1), ?_, Int64.toInt_ofNat_of_lt small⟩
  rw [next?, if_pos hless, hcast, Int64.ofNat_add]
  rfl

/-- No step of the calculation in words divides by zero or leaves their range, and it has the same
label. -/
theorem exists_wordLabel {total buckets index : UInt64} (small : total.toNat < 2 ^ 63)
    (within : index.toNat < total.toNat) :
    ∃ label, wordLabel? total buckets index = some label ∧
      label.toInt = (index.toNat / bucketSize total.toNat buckets.toNat + 1 : ℕ) := by
  have hone : (1 : UInt64).toNat = 1 := rfl
  have hparts : (max buckets 1).toNat = max buckets.toNat 1 := by rw [UInt64.toNat_max, hone]
  obtain ⟨size, hsize, hvalue⟩ := @ceilQuotient?_eq total (max buckets 1) (by omega) small
  have hbucketSize : (max size 1).toNat = bucketSize total.toNat buckets.toNat := by
    rw [UInt64.toNat_max, hone, hvalue, hparts]
    rfl
  obtain ⟨bucket, hbucket, hplace⟩ := @quotient?_eq index (max size 1) (by
    rw [hbucketSize]
    exact bucketSize_pos _ _)
  have hle : bucket.toNat ≤ index.toNat := hplace ▸ Nat.div_le_self _ _
  obtain ⟨label, hlabel, hnext⟩ := @next?_toInt64 bucket (by omega)
  refine ⟨label, ?_, ?_⟩
  · simp only [wordLabel?, hsize, hbucket, Option.bind_eq_bind, Option.bind_some, hlabel]
  · rw [hnext, hplace, hbucketSize]

end Words

section Rows

theorem ntile_eq (buckets : ℕ) (rows : Dataset) :
    ntile buckets rows = List.zipWith (fun row label => row.insert "ntile" (count label)) rows
      (labels rows.length buckets) := by
  rw [ntile, attach, labels, List.zipWith_map_right, List.zipWith_map_right]

theorem count_of_toInt {n : ℕ} {cell : Int64} (h : cell.toInt = n) : count n = .integer cell := by
  rw [count, ← Int64.ofInt_eq_ofNat, ← h, Int64.ofInt_toInt]

theorem cells_ntile (buckets : ℕ) (rows : Dataset) :
    (ntile buckets rows).map (fun row => row.value "ntile") =
      (labels rows.length buckets).map count := by
  have hattach : ntile buckets rows =
      attach "ntile" ((labels rows.length buckets).map count) rows := by
    rw [ntile_eq, attach, List.zipWith_map_right]
  rw [hattach]
  exact cells_attach (by rw [List.length_map, length_labels])

/-- Buckets are numbered from one without gaps in the order of the rows, and there are no more than
asked for. All but the last one have as many rows as there are for each bucket, rounded up, and the
last one has no more and at least one. As long as the rows fit into memory, the steps in words of 64
bits have these labels, whatever the number of buckets. -/
theorem ntile_fills_buckets (buckets : ℕ) (rows : Dataset) :
    let labels := labels rows.length buckets
    let size := ⌈(rows.length / (max buckets 1 : ℕ) : ℚ)⌉₊
    ntile buckets rows =
      List.zipWith (fun row label => row.insert "ntile" (count label)) rows labels ∧
    (ntile buckets rows).map (fun row => row.value "ntile") = labels.map count ∧
    (rows ≠ [] → labels.head? = some 1) ∧
    labels.IsChain (fun label next => next = label ∨ next = label + 1) ∧
    (∀ label ∈ labels, label ≤ max buckets 1) ∧
    (∀ last, labels.getLast? = some last →
      (∀ label, 1 ≤ label → label < last → labels.count label = size) ∧
      1 ≤ labels.count last ∧ labels.count last ≤ size) ∧
    (rows.length < 2 ^ 63 → ∀ word : UInt64, word.toNat = buckets →
      ∀ i label : ℕ, labels[i]? = some label →
        ∃ cell, wordLabel? (.ofNat rows.length) word (.ofNat i) = some cell ∧
          cell.toInt = label ∧ count label = .integer cell) := by
  intro labels size
  refine ⟨ntile_eq buckets rows, cells_ntile buckets rows, fun nonempty => ?_,
    isChain_labels rows.length buckets, fun label h => ?_, fun last h => ?_,
    fun small word hword i label h => ?_⟩
  · exact head?_labels (List.length_pos_iff.mpr nonempty) buckets
  · obtain ⟨i, hi, rfl⟩ := List.mem_map.mp h
    exact label_le (List.mem_range.mp hi) buckets
  · have hsize : bucketSize rows.length buckets = size :=
      bucketSize_eq_ceil (pos_of_getLast? h) buckets
    rw [← hsize]
    exact counts_of_getLast? h
  · obtain ⟨hi, rfl⟩ := List.getElem?_eq_some_iff.mp h
    rw [length_labels] at hi
    have htotal : (UInt64.ofNat rows.length).toNat = rows.length :=
      UInt64.toNat_ofNat_of_lt' (small.trans (by decide))
    have hindex : (UInt64.ofNat i).toNat = i :=
      UInt64.toNat_ofNat_of_lt' ((hi.trans small).trans (by decide))
    obtain ⟨cell, hcell, hvalue⟩ := @exists_wordLabel (.ofNat rows.length) word (.ofNat i)
      (by rwa [htotal]) (by rwa [htotal, hindex])
    rw [htotal, hindex, hword] at hvalue
    have hlabel : labels[i] = i / bucketSize rows.length buckets + 1 := getElem_labels _
    rw [hlabel]
    exact ⟨cell, hcell, hvalue, count_of_toInt hvalue⟩

/-- Five rows in two pairs and one more, which makes a bucket less than asked for. -/
theorem five_rows_in_four_buckets :
    let rows : Dataset := (List.range 5).map fun i => .ofCells [("day", count i)]
    rows ≠ [] ∧ rows.length < 2 ^ 63 ∧
    (ntile 4 rows).map (fun row => row.value "ntile") = [1, 1, 2, 2, 3].map count ∧
    (labels 5 4).getLast? = some 3 ∧
    (labels 5 4).count 2 = ⌈((5 : ℕ) / (max 4 1 : ℕ) : ℚ)⌉₊ ∧
    ∃ cell, wordLabel? 5 4 4 = some cell ∧ cell.toInt = 3 := by
  intro rows
  have nonempty : rows ≠ [] := List.cons_ne_nil _ _
  have small : rows.length < 2 ^ 63 := by decide
  have hlabels : labels 5 4 = [1, 1, 2, 2, 3] := by decide
  have hlast : (labels 5 4).getLast? = some 3 := by decide
  obtain ⟨-, hcells, -, -, -, hcounts, hwords⟩ := ntile_fills_buckets 4 rows
  obtain ⟨cell, hcell, hvalue, -⟩ := hwords small 4 rfl 4 3 (by decide)
  exact ⟨nonempty, small, hlabels ▸ hcells, hlast, (hcounts 3 hlast).1 2 (by decide) (by decide),
    cell, hcell, hvalue⟩

end Rows

end TableTalk.Series
