import Mathlib.Algebra.BigOperators.Group.List.Lemmas
import Mathlib.Algebra.Ring.Nat
import Mathlib.Data.List.Dedup
import TableTalk.Proofs.Listing
import TableTalk.Proofs.Sorting
import TableTalk.Statistics.Frequency

/-!
# Frequency tables as counts

A frequency table can be made in one pass that keeps the place of every display it has
seen: a value with a known display adds one to the entry at that place, any other value
makes an entry behind the others. After every value the entries are those of the values so
far, counted by their displays. Sorting them by count leaves entries with one count in the
order of the pass, which is the order in which their displays occur first.
-/

namespace TableTalk.Statistics

variable {values : List Value} {withPercentage : Bool} {value other : Value}

section Displays

def displays (table : List Frequency) : List String :=
  table.map fun entry => entry.value.display

theorem displays_perm (values : List Value) (withPercentage : Bool) :
    (displays (frequencies values withPercentage)).Perm
      ((Listing.distinctBy Value.display values).map Value.display) := by
  have hsort := Listing.sort_perm (fun a b : Frequency => decide (b.count < a.count))
    ((Listing.distinctBy Value.display values).map (frequencyOf values withPercentage))
  have hmap := hsort.map fun entry => entry.value.display
  rwa [List.map_map] at hmap

theorem mem_displays {display : String} :
    display ∈ displays (frequencies values withPercentage) ↔
      ∃ value ∈ values, value.display = display := by
  rw [(displays_perm values withPercentage).mem_iff, Listing.mem_map_distinctBy, List.mem_map]

theorem nodup_displays : (displays (frequencies values withPercentage)).Nodup :=
  (displays_perm values withPercentage).nodup_iff.mpr Listing.nodup_map_distinctBy

end Displays

section Pass

/-- A table in the making: the entries in the order in which their displays were seen first, and the
places of the displays among them. -/
structure Tally where
  entries : List Frequency := []
  places : List (String × ℕ) := []

/-- An entry that counts one value more. -/
def Frequency.increment (entry : Frequency) : Frequency :=
  { entry with count := entry.count + 1 }

/-- Counts one value. -/
def Tally.add (tally : Tally) (value : Value) : Tally :=
  match tally.places.lookup value.display with
  | some place => { tally with entries := tally.entries.modify place Frequency.increment }
  | none =>
    { entries := tally.entries ++ [⟨value, 1, none⟩]
      places := (value.display, tally.entries.length) :: tally.places }

/-- Counts values from the first to the last. -/
def Tally.ofValues (values : List Value) : Tally :=
  values.foldl Tally.add {}

/-- The entries are the frequencies of the values with different displays, and the places lead to
them. -/
structure Tally.Counts (tally : Tally) (values : List Value) : Prop where
  entries_eq : tally.entries =
    (Listing.distinctBy Value.display values).map (frequencyOf values false)
  lookup_iff : ∀ display place, tally.places.lookup display = some place ↔
    ((Listing.distinctBy Value.display values).map Value.display)[place]? = some display

theorem frequencyOf_concat (values : List Value) (value other : Value) :
    frequencyOf (values ++ [value]) false other =
      if value.display = other.display then (frequencyOf values false other).increment
      else frequencyOf values false other := by
  rw [frequencyOf, frequencyOf, List.countP_append, List.countP_singleton, if_neg Bool.false_ne_true,
    if_neg Bool.false_ne_true]
  simp only [beq_iff_eq]
  split
  case isTrue => rw [Frequency.increment]
  case isFalse => rw [Nat.add_zero]

theorem frequencyOf_new (h : value.display ∉ values.map Value.display) :
    frequencyOf (values ++ [value]) false value = ⟨value, 1, none⟩ := by
  have hzero : (values.countP fun other => other.display == value.display) = 0 := by
    refine List.countP_eq_zero.mpr fun other hother hsame => h ?_
    exact List.mem_map.mpr ⟨other, hother, beq_iff_eq.mp hsame⟩
  rw [frequencyOf_concat, if_pos rfl, Frequency.increment, frequencyOf, hzero]
  rfl

theorem Tally.Counts.length_entries {tally : Tally} (h : tally.Counts values) :
    tally.entries.length = (Listing.distinctBy Value.display values).length := by
  rw [h.entries_eq, List.length_map]

theorem Tally.Counts.mem_of_lookup {tally : Tally} (h : tally.Counts values) {place : ℕ}
    (found : tally.places.lookup value.display = some place) :
    value.display ∈ values.map Value.display :=
  Listing.mem_map_distinctBy.mp (List.mem_of_getElem? ((h.lookup_iff _ _).mp found))

theorem Tally.Counts.notMem_of_lookup {tally : Tally} (h : tally.Counts values)
    (missing : tally.places.lookup value.display = none) :
    value.display ∉ values.map Value.display := by
  intro hmem
  obtain ⟨place, hplace⟩ := List.getElem?_of_mem (Listing.mem_map_distinctBy.mpr hmem)
  rw [(h.lookup_iff _ _).mpr hplace] at missing
  cases missing

/-- The place of a display is the only one with an entry for it. -/
theorem Tally.Counts.modify_entries {tally : Tally} (h : tally.Counts values) {place : ℕ}
    (found : tally.places.lookup value.display = some place) :
    tally.entries.modify place Frequency.increment =
      (Listing.distinctBy Value.display values).map (frequencyOf (values ++ [value]) false) := by
  have hplace := (h.lookup_iff _ _).mp found
  refine List.ext_getElem? fun i => ?_
  rw [List.getElem?_modify, h.entries_eq, List.getElem?_map, List.getElem?_map]
  cases hother : (Listing.distinctBy Value.display values)[i]? with
  | none => rfl
  | some other =>
    have hi : ((Listing.distinctBy Value.display values).map Value.display)[i]? =
        some other.display := by
      rw [List.getElem?_map, hother, Option.map_some]
    have hiff : place = i ↔ value.display = other.display := by
      constructor
      · rintro rfl
        exact Option.some.inj (hplace.symm.trans hi)
      · intro hsame
        rw [hsame] at hplace
        have hlt := (List.getElem?_eq_some_iff.mp hplace).1
        exact (List.getElem?_inj hlt Listing.nodup_map_distinctBy).mp (hplace.trans hi.symm)
    rw [Option.map_some, Option.map_some, frequencyOf_concat]
    simp only [hiff]
    split <;> rfl

theorem getElem?_concat_eq_some_iff {names : List String} {name other : String} {place : ℕ} :
    (names ++ [name])[place]? = some other ↔
      names[place]? = some other ∨ place = names.length ∧ name = other := by
  rcases lt_trichotomy place names.length with hlt | rfl | hgt
  · rw [List.getElem?_append_left hlt]
    simp only [hlt.ne, false_and, or_false]
  · rw [List.getElem?_concat_length, List.getElem?_eq_none le_rfl]
    simp only [Option.some.injEq, reduceCtorEq, true_and, false_or]
  · rw [List.getElem?_eq_none hgt.le, List.getElem?_eq_none (by simp; omega)]
    simp only [reduceCtorEq, hgt.ne', false_and, or_false]

theorem Tally.add_known {tally : Tally} {place : ℕ}
    (found : tally.places.lookup value.display = some place) :
    tally.add value =
      { tally with entries := tally.entries.modify place Frequency.increment } := by
  rw [Tally.add, found]

theorem Tally.add_new {tally : Tally} (missing : tally.places.lookup value.display = none) :
    tally.add value =
      { entries := tally.entries ++ [⟨value, 1, none⟩]
        places := (value.display, tally.entries.length) :: tally.places } := by
  rw [Tally.add, missing]

theorem Tally.Counts.add_known {tally : Tally} (h : tally.Counts values) {place : ℕ}
    (found : tally.places.lookup value.display = some place) :
    (tally.add value).Counts (values ++ [value]) := by
  have hkept : Listing.distinctBy Value.display (values ++ [value]) =
      Listing.distinctBy Value.display values :=
    Listing.distinctBy_concat_of_mem (h.mem_of_lookup found)
  rw [Tally.add_known found]
  constructor
  case entries_eq => rw [hkept, h.modify_entries found]
  case lookup_iff => simpa only [hkept] using h.lookup_iff

theorem Tally.Counts.add_new {tally : Tally} (h : tally.Counts values)
    (missing : tally.places.lookup value.display = none) :
    (tally.add value).Counts (values ++ [value]) := by
  have hnew := h.notMem_of_lookup missing
  have hlast := Listing.distinctBy_concat_of_notMem hnew
  rw [Tally.add_new missing]
  constructor
  case entries_eq =>
    rw [hlast, List.map_append, List.map_singleton, frequencyOf_new hnew, h.entries_eq]
    refine congrArg (· ++ _) (List.map_congr_left fun other hother => ?_)
    rw [frequencyOf_concat, if_neg]
    intro hsame
    exact hnew (hsame ▸ List.mem_map_of_mem (Listing.mem_of_mem_distinctBy hother))
  case lookup_iff =>
    intro display place
    rw [Listing.lookup_cons_eq, hlast, List.map_append, List.map_singleton, h.length_entries,
      getElem?_concat_eq_some_iff, List.length_map, ← h.lookup_iff]
    by_cases hdisplay : display = value.display
    case pos =>
      rw [if_pos hdisplay, hdisplay, missing]
      simp only [Option.some.injEq, reduceCtorEq, false_or, and_true]
      exact eq_comm
    case neg =>
      rw [if_neg hdisplay]
      simp only [Ne.symm hdisplay, and_false, or_false]

/-- Counting a value keeps the table right for the values with it. -/
theorem Tally.Counts.add {tally : Tally} (h : tally.Counts values) (value : Value) :
    (tally.add value).Counts (values ++ [value]) := by
  cases hfound : tally.places.lookup value.display with
  | some place => exact h.add_known hfound
  | none => exact h.add_new hfound

theorem counts_ofValues (values : List Value) : (Tally.ofValues values).Counts values := by
  induction values using List.reverseRecOn with
  | nil => exact ⟨rfl, fun display place => by simp [Tally.ofValues, Listing.distinctBy]⟩
  | append_singleton values value ih =>
    rw [Tally.ofValues, List.foldl_append, List.foldl_cons, List.foldl_nil]
    exact ih.add value

/-- An entry with its share in percent, if asked for. -/
def Frequency.withShare (asked : Bool) (total : ℕ) (entry : Frequency) : Frequency :=
  { entry with
    percentage :=
      if asked then some (Float.ofNat entry.count / Float.ofNat total * 100.0) else none }

/-- A frequency table is what one pass counts, sorted by count; the shares are put in last. -/
theorem frequencies_eq (values : List Value) (withPercentage : Bool) :
    frequencies values withPercentage =
      (Listing.sort (fun a b => b.count < a.count) (Tally.ofValues values).entries).map
        (Frequency.withShare withPercentage values.length) := by
  have hshare : (Listing.distinctBy Value.display values).map (frequencyOf values withPercentage) =
      (Tally.ofValues values).entries.map (Frequency.withShare withPercentage values.length) := by
    rw [(counts_ofValues values).entries_eq, List.map_map]
    rfl
  rw [frequencies, hshare, Listing.sort_map]
  rfl

end Pass

section Tables

/-- The place at which the display of an entry is seen first. -/
def firstPlace (values : List Value) (entry : Frequency) : ℕ :=
  values.findIdx fun value => value.display == entry.value.display

theorem pairwise_frequencies (values : List Value) (withPercentage : Bool) :
    (frequencies values withPercentage).Pairwise fun a b =>
      b.count < a.count ∨ b.count = a.count ∧ firstPlace values a < firstPlace values b := by
  have hprecedes : (fun a b : Frequency => decide (b.count < a.count)) =
      fun a b => compare b.count a.count == .lt := by
    funext a b
    rw [Bool.eq_iff_iff, beq_iff_eq, compare_lt_iff_lt, decide_eq_true_iff]
  have htrans : Std.TransCmp fun a b : Frequency => compare b.count a.count :=
    Listing.transCmp_on (fun m n : ℕ => compare n m) Frequency.count
  have hstood : ((Listing.distinctBy Value.display values).map
      (frequencyOf values withPercentage)).Pairwise
        fun a b => firstPlace values a < firstPlace values b :=
    List.pairwise_map.mpr (Listing.pairwise_findIdx_distinctBy values)
  rw [frequencies, hprecedes]
  refine (Listing.pairwise_sort hstood).imp fun {a b} h => ?_
  rcases h with hless | ⟨hsame, hfirst⟩
  · exact Or.inl (compare_lt_iff_lt.mp hless)
  · exact Or.inr ⟨compare_eq_iff_eq.mp hsame, hfirst⟩

theorem exists_of_mem_frequencies {entry : Frequency}
    (h : entry ∈ frequencies values withPercentage) :
    ∃ value ∈ Listing.distinctBy Value.display values,
      frequencyOf values withPercentage value = entry :=
  List.mem_map.mp ((Listing.sort_perm _ _).subset h)

theorem sum_counts (values : List Value) (withPercentage : Bool) :
    ((frequencies values withPercentage).map Frequency.count).sum = values.length := by
  have hsort : ((frequencies values withPercentage).map Frequency.count).sum =
      (((Listing.distinctBy Value.display values).map Value.display).map fun display =>
        (values.map Value.display).count display).sum := by
    rw [frequencies, ((Listing.sort_perm _ _).map Frequency.count).sum_eq, List.map_map,
      List.map_map]
    refine congrArg List.sum (List.map_congr_left fun value _ => ?_)
    rw [Function.comp_apply, Function.comp_apply, List.count_eq_countP, List.countP_map]
    rfl
  have hdistinct : ((Listing.distinctBy Value.display values).map Value.display).Perm
      (values.map Value.display).dedup := by
    refine (List.perm_ext_iff_of_nodup Listing.nodup_map_distinctBy (List.nodup_dedup _)).mpr ?_
    intro display
    rw [Listing.mem_map_distinctBy, List.mem_dedup]
  rw [hsort, (hdistinct.map _).sum_eq, List.sum_map_count_dedup_eq_length, List.length_map]

/-- A frequency table is what one pass over the values counts, sorted by count. It has one entry for
every display among the values, which shows the first value with that display and counts all of
them; the counts add up to the number of values. Entries with one count stand in the order in which
their displays are seen first. -/
theorem frequencies_count_displays (values : List Value) (withPercentage : Bool) :
    let table := frequencies values withPercentage
    table = (Listing.sort (fun a b => b.count < a.count) (Tally.ofValues values).entries).map
      (Frequency.withShare withPercentage values.length) ∧
    (table.map fun entry => entry.value.display).Nodup ∧
    (∀ entry ∈ table,
      values.find? (fun value => value.display == entry.value.display) = some entry.value ∧
      entry.count = values.countP fun value => value.display == entry.value.display) ∧
    (table.map Frequency.count).sum = values.length ∧
    (∀ value ∈ values, ∃ entry ∈ table, entry.value.display = value.display) ∧
    table.Pairwise fun a b =>
      b.count < a.count ∨ b.count = a.count ∧ firstPlace values a < firstPlace values b := by
  intro table
  refine ⟨frequencies_eq values withPercentage, nodup_displays, fun entry h => ?_,
    sum_counts values withPercentage, fun value h => ?_, pairwise_frequencies values withPercentage⟩
  · obtain ⟨value, hvalue, rfl⟩ := exists_of_mem_frequencies h
    refine ⟨?_, rfl⟩
    rw [← List.head?_filter]
    exact Listing.head?_filter_of_mem_distinctBy hvalue
  · have hshown : value.display ∈ displays table := mem_displays.mpr ⟨value, h, rfl⟩
    exact List.mem_map.mp hshown

/-- A number and its text count as one value, the one that is seen first. -/
theorem number_counted_with_its_text :
    let values : List Value := [.text "b", .text "1", .integer 1]
    let table := frequencies values false
    table.map (fun entry => (entry.value, entry.count)) = [(.text "1", 2), (.text "b", 1)] ∧
    ∃ entry ∈ table, entry.value.display = (Value.integer 1).display ∧
      values.find? (fun value => value.display == entry.value.display) = some entry.value ∧
      entry.count = 2 := by
  intro values table
  obtain ⟨-, -, hentries, -, hcovered, -⟩ := frequencies_count_displays values false
  obtain ⟨entry, hentry, hdisplay⟩ := hcovered (.integer 1) (by decide +kernel)
  obtain ⟨hfirst, hcount⟩ := hentries entry hentry
  refine ⟨by decide +kernel, entry, hentry, hdisplay, hfirst, ?_⟩
  rw [hcount, hdisplay]
  decide +kernel

end Tables

end TableTalk.Statistics
