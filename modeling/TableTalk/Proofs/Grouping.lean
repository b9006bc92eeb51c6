import Mathlib.Data.String.Basic
import TableTalk.Grouping.Statistic

/-!
# Groups are the entries of one key

Entries are put into their groups one by one. What comes out is what filtering
by key gives: keys rise strictly from group to group, every key that occurs has
its group, and a group has the entries of its key in their order. The invariant
of the pass is what is under each key, for every key.
-/

namespace TableTalk.Grouping

variable {κ ρ : Type}

section Entries

variable [DecidableEq κ]

/-- The entries under a key; there are none without a group of the key. -/
def entriesUnder (key : κ) : List (Group κ ρ) → List ρ
  | [] => []
  | group :: groups =>
    if group.key = key then group.entries ++ entriesUnder key groups else entriesUnder key groups

theorem entriesUnder_of_absent {key : κ} {groups : List (Group κ ρ)}
    (absent : ∀ group ∈ groups, group.key ≠ key) : entriesUnder key groups = [] := by
  induction groups with
  | nil => rfl
  | cons group groups ih =>
    rw [entriesUnder, if_neg (absent group (by simp))]
    exact ih fun g hg => absent g (by simp [hg])

theorem exists_of_mem_entriesUnder {key : κ} {entry : ρ} {groups : List (Group κ ρ)}
    (h : entry ∈ entriesUnder key groups) : ∃ group ∈ groups, group.key = key := by
  by_contra hnone
  rw [entriesUnder_of_absent fun group hg he => hnone ⟨group, hg, he⟩] at h
  cases h

/-- Keys rise from group to group. -/
def Ascending [LT κ] (groups : List (Group κ ρ)) : Prop :=
  groups.Pairwise fun a b => a.key < b.key

theorem entriesUnder_of_mem [LT κ] [IsStrictTotalOrder κ (· < ·)] {groups : List (Group κ ρ)}
    (ascending : Ascending groups) {group : Group κ ρ} (h : group ∈ groups) :
    entriesUnder group.key groups = group.entries := by
  induction groups with
  | nil => cases h
  | cons first groups ih =>
    obtain ⟨hfirst, hrest⟩ := List.pairwise_cons.mp ascending
    rw [entriesUnder]
    rcases List.mem_cons.mp h with rfl | h
    · rw [if_pos rfl, entriesUnder_of_absent, List.append_nil]
      intro g hg he
      exact irrefl group.key (he ▸ hfirst g hg)
    · have hne : first.key ≠ group.key := fun he => irrefl group.key (he ▸ hfirst group h)
      rw [if_neg hne, ih hrest h]

end Entries

variable [LT κ] [DecidableLT κ]

theorem key_of_mem_addEntry {key : κ} {entry : ρ} {groups : List (Group κ ρ)} {group : Group κ ρ}
    (h : group ∈ addEntry key entry groups) :
    group.key = key ∨ ∃ old ∈ groups, group.key = old.key := by
  induction groups with
  | nil =>
    rw [addEntry, List.mem_singleton] at h
    exact Or.inl (congrArg Group.key h)
  | cons first groups ih =>
    rw [addEntry] at h
    split at h
    · rcases List.mem_cons.mp h with rfl | h
      · exact Or.inl rfl
      · exact Or.inr ⟨group, h, rfl⟩
    · split at h
      · rcases List.mem_cons.mp h with rfl | h
        · exact Or.inr ⟨group, by simp, rfl⟩
        · rcases ih h with hk | ⟨old, hold, hk⟩
          · exact Or.inl hk
          · exact Or.inr ⟨old, by simp [hold], hk⟩
      · rcases List.mem_cons.mp h with rfl | h
        · exact Or.inr ⟨first, by simp, rfl⟩
        · exact Or.inr ⟨group, by simp [h], rfl⟩

theorem ne_nil_of_mem_addEntry {key : κ} {entry : ρ} {groups : List (Group κ ρ)}
    (filled : ∀ group ∈ groups, group.entries ≠ []) :
    ∀ group ∈ addEntry key entry groups, group.entries ≠ [] := by
  induction groups with
  | nil => simp [addEntry]
  | cons first groups ih =>
    intro group h
    have hrest : ∀ g ∈ groups, g.entries ≠ [] := fun g hg => filled g (by simp [hg])
    rw [addEntry] at h
    split at h
    · rcases List.mem_cons.mp h with rfl | h
      · simp
      · exact filled group h
    · split at h
      · rcases List.mem_cons.mp h with rfl | h
        · exact filled group (by simp)
        · exact ih hrest group h
      · rcases List.mem_cons.mp h with rfl | h
        · simp
        · exact hrest group h

theorem ne_nil_of_mem_groupBy {key : ρ → κ} {entries : List ρ} :
    ∀ group ∈ groupBy key entries, group.entries ≠ [] := by
  have hfold (groups : List (Group κ ρ)) (filled : ∀ group ∈ groups, group.entries ≠ []) :
      ∀ group ∈ entries.foldl (fun groups entry => addEntry (key entry) entry groups) groups,
        group.entries ≠ [] := by
    induction entries generalizing groups with
    | nil => exact filled
    | cons entry entries ih => exact ih _ (ne_nil_of_mem_addEntry filled)
  exact hfold [] (by simp)

theorem flatMap_addEntry_perm (key : κ) (entry : ρ) (groups : List (Group κ ρ)) :
    ((addEntry key entry groups).flatMap Group.entries).Perm
      (groups.flatMap Group.entries ++ [entry]) := by
  induction groups with
  | nil => exact List.Perm.refl _
  | cons first groups ih =>
    rw [addEntry]
    split
    · exact (List.perm_append_singleton entry _).symm
    · split
      · rw [List.flatMap_cons, List.flatMap_cons, List.append_assoc]
        exact ih.append_left first.entries
      · rw [List.flatMap_cons, List.flatMap_cons, List.append_assoc, List.append_assoc]
        exact List.perm_append_comm.append_left first.entries

/-- Grouping loses no entry and repeats none. -/
theorem flatMap_groupBy_perm (key : ρ → κ) (entries : List ρ) :
    ((groupBy key entries).flatMap Group.entries).Perm entries := by
  have hfold (groups : List (Group κ ρ)) :
      ((entries.foldl (fun groups entry => addEntry (key entry) entry groups) groups).flatMap
          Group.entries).Perm (groups.flatMap Group.entries ++ entries) := by
    induction entries generalizing groups with
    | nil => rw [List.append_nil]; exact List.Perm.refl _
    | cons entry entries ih =>
      rw [List.append_cons]
      exact (ih _).trans ((flatMap_addEntry_perm _ _ _).append_right entries)
  exact hfold []

/-- A change of entries that does not change their groups can as well be made in the groups. -/
theorem groupBy_map {ρ' : Type} (key : ρ' → κ) (change : ρ → ρ') (entries : List ρ) :
    groupBy key (entries.map change) =
      (groupBy (fun entry => key (change entry)) entries).map fun group =>
        ⟨group.key, group.entries.map change⟩ := by
  let changed : List (Group κ ρ) → List (Group κ ρ') :=
    List.map fun group => ⟨group.key, group.entries.map change⟩
  have hadd (groups : List (Group κ ρ)) (entry : ρ) :
      addEntry (key (change entry)) (change entry) (changed groups) =
        changed (addEntry (key (change entry)) entry groups) := by
    induction groups with
    | nil => rfl
    | cons group groups ih =>
      simp only [changed, List.map_cons, addEntry]
      split
      · rfl
      · split
        · exact congrArg _ ih
        · simp only [List.map_cons, List.map_append, List.map_nil]
  have hfold (groups : List (Group κ ρ)) :
      entries.foldl (fun groups entry => addEntry (key (change entry)) (change entry) groups)
          (changed groups) =
        changed (entries.foldl (fun groups entry => addEntry (key (change entry)) entry groups)
          groups) := by
    induction entries generalizing groups with
    | nil => rfl
    | cons entry entries ih => rw [List.foldl_cons, List.foldl_cons, hadd, ih]
  rw [groupBy, List.foldl_map]
  exact hfold []

/-- Keys may be exchanged for others that are in the same order. -/
theorem groupBy_embed {κ' : Type} [LT κ'] [DecidableLT κ'] {embed : κ → κ'}
    (ordered : ∀ a b, embed a < embed b ↔ a < b) (key : ρ → κ) (entries : List ρ) :
    groupBy (fun entry => embed (key entry)) entries =
      (groupBy key entries).map fun group => ⟨embed group.key, group.entries⟩ := by
  let embedded : List (Group κ ρ) → List (Group κ' ρ) :=
    List.map fun group => ⟨embed group.key, group.entries⟩
  have hadd (groups : List (Group κ ρ)) (entry : ρ) :
      addEntry (embed (key entry)) entry (embedded groups) =
        embedded (addEntry (key entry) entry groups) := by
    induction groups with
    | nil => rfl
    | cons group groups ih =>
      simp only [embedded, List.map_cons, addEntry, ordered]
      split
      · rfl
      · split
        · exact congrArg _ ih
        · rfl
  change entries.foldl (fun groups entry => addEntry (embed (key entry)) entry groups)
    (embedded []) = embedded _
  exact List.foldl_hom embedded hadd

variable [IsStrictTotalOrder κ (· < ·)]

theorem ascending_addEntry (key : κ) (entry : ρ) {groups : List (Group κ ρ)}
    (ascending : Ascending groups) : Ascending (addEntry key entry groups) := by
  induction groups with
  | nil => exact List.pairwise_singleton _ _
  | cons first groups ih =>
    obtain ⟨hfirst, hrest⟩ := List.pairwise_cons.mp ascending
    rw [addEntry]
    split
    case isTrue hlt =>
      refine List.pairwise_cons.mpr ⟨?_, ascending⟩
      intro g hg
      rcases List.mem_cons.mp hg with rfl | hg
      · exact hlt
      · exact IsTrans.trans _ _ _ hlt (hfirst g hg)
    case isFalse hge =>
      split
      case isTrue hgt =>
        refine List.pairwise_cons.mpr ⟨?_, ih hrest⟩
        intro g hg
        rcases key_of_mem_addEntry hg with hk | ⟨old, hold, hk⟩
        · exact hk ▸ hgt
        · exact hk ▸ hfirst old hold
      case isFalse => exact List.pairwise_cons.mpr ⟨hfirst, hrest⟩

theorem ascending_groupBy (key : ρ → κ) (entries : List ρ) : Ascending (groupBy key entries) := by
  have hfold (groups : List (Group κ ρ)) (ascending : Ascending groups) :
      Ascending (entries.foldl (fun groups entry => addEntry (key entry) entry groups) groups) := by
    induction entries generalizing groups with
    | nil => exact ascending
    | cons entry entries ih => exact ih _ (ascending_addEntry _ _ ascending)
  exact hfold [] List.Pairwise.nil

variable [DecidableEq κ]

/-- An entry comes last under its own key and changes nothing under the others. -/
theorem entriesUnder_addEntry (key other : κ) (entry : ρ) {groups : List (Group κ ρ)}
    (ascending : Ascending groups) :
    entriesUnder other (addEntry key entry groups) =
      entriesUnder other groups ++ if key = other then [entry] else [] := by
  induction groups with
  | nil => by_cases h : key = other <;> simp [addEntry, entriesUnder, h]
  | cons first groups ih =>
    obtain ⟨hfirst, hrest⟩ := List.pairwise_cons.mp ascending
    rw [addEntry]
    split
    case isTrue hlt =>
      -- the key is new, since it lies below all others
      have habsent : ∀ group ∈ first :: groups, group.key ≠ key := by
        intro g hg he
        rcases List.mem_cons.mp hg with rfl | hg
        · exact irrefl key (he ▸ hlt)
        · exact irrefl key (he ▸ IsTrans.trans _ _ _ hlt (hfirst g hg))
      rw [entriesUnder]
      split
      case isTrue h =>
        subst h
        rw [entriesUnder_of_absent habsent, List.append_nil, List.nil_append]
      case isFalse => rw [List.append_nil]
    case isFalse hge =>
      split
      case isTrue hgt =>
        rw [entriesUnder, entriesUnder, ih hrest]
        split
        · rw [List.append_assoc]
        · rfl
      case isFalse hle =>
        have hkey : key = first.key := Std.Trichotomous.trichotomous _ _ hge hle
        have habsent : entriesUnder first.key groups = [] :=
          entriesUnder_of_absent fun g hg he => irrefl first.key (he ▸ hfirst g hg)
        rw [entriesUnder, entriesUnder, hkey]
        split
        case isTrue h => rw [← h, habsent, List.append_nil, List.append_nil]
        case isFalse => rw [List.append_nil]

theorem entriesUnder_groupBy (key : ρ → κ) (entries : List ρ) (k : κ) :
    entriesUnder k (groupBy key entries) = entries.filter fun entry => key entry = k := by
  have hfold (groups : List (Group κ ρ)) (ascending : Ascending groups) :
      entriesUnder k
          (entries.foldl (fun groups entry => addEntry (key entry) entry groups) groups) =
        entriesUnder k groups ++ entries.filter fun entry => key entry = k := by
    induction entries generalizing groups with
    | nil => rw [List.filter_nil, List.append_nil]; rfl
    | cons entry entries ih =>
      rw [List.foldl_cons, ih _ (ascending_addEntry _ _ ascending),
        entriesUnder_addEntry _ _ _ ascending, List.append_assoc]
      by_cases h : key entry = k <;> simp [h]
  exact hfold [] List.Pairwise.nil

/-- A group has exactly the entries of its key, in their order. -/
theorem entries_of_mem_groupBy {key : ρ → κ} {entries : List ρ} {group : Group κ ρ}
    (h : group ∈ groupBy key entries) :
    group.entries = entries.filter fun entry => key entry = group.key := by
  rw [← entriesUnder_of_mem (ascending_groupBy key entries) h, entriesUnder_groupBy]

/-- The first entry of a group has the key of the group. -/
theorem exists_head_of_mem_groupBy {key : ρ → κ} {entries : List ρ} {group : Group κ ρ}
    (h : group ∈ groupBy key entries) :
    ∃ first, group.entries.head? = some first ∧ key first = group.key := by
  obtain ⟨first, rest, hentries⟩ := List.exists_cons_of_ne_nil (ne_nil_of_mem_groupBy group h)
  have hfirst : first ∈ group.entries := hentries ▸ List.mem_cons_self
  rw [entries_of_mem_groupBy h, List.mem_filter] at hfirst
  exact ⟨first, by rw [hentries, List.head?_cons], of_decide_eq_true hfirst.2⟩

/-- Every key that occurs has a group. -/
theorem exists_group_of_mem {key : ρ → κ} {entries : List ρ} {entry : ρ} (h : entry ∈ entries) :
    ∃ group ∈ groupBy key entries, group.key = key entry := by
  have hunder : entry ∈ entriesUnder (key entry) (groupBy key entries) := by
    rw [entriesUnder_groupBy, List.mem_filter]
    exact ⟨h, by simp⟩
  exact exists_of_mem_entriesUnder hunder

theorem mem_keys_groupBy {key : ρ → κ} {entries : List ρ} {k : κ} :
    k ∈ (groupBy key entries).map Group.key ↔ ∃ entry ∈ entries, key entry = k := by
  constructor
  · intro h
    obtain ⟨group, hgroup, rfl⟩ := List.mem_map.mp h
    obtain ⟨entry, rest, hentries⟩ :=
      List.exists_cons_of_ne_nil (ne_nil_of_mem_groupBy group hgroup)
    have hentry : entry ∈ group.entries := hentries ▸ List.mem_cons_self
    rw [entries_of_mem_groupBy hgroup, List.mem_filter] at hentry
    exact ⟨entry, hentry.1, of_decide_eq_true hentry.2⟩
  · rintro ⟨entry, hentry, rfl⟩
    exact List.mem_map.mpr (exists_group_of_mem hentry)

/-- The entries of all groups are what filtering gives for the keys of the groups. -/
theorem map_entries_groupBy (key : ρ → κ) (entries : List ρ) :
    (groupBy key entries).map Group.entries =
      ((groupBy key entries).map Group.key).map fun k =>
        entries.filter fun entry => key entry = k := by
  rw [List.map_map]
  refine List.map_congr_left fun group hgroup => ?_
  rw [entries_of_mem_groupBy hgroup, Function.comp_apply]

theorem mem_of_mem_groupBy {key : ρ → κ} {entries : List ρ} {group : Group κ ρ}
    (h : group ∈ groupBy key entries) {entry : ρ} (hentry : entry ∈ group.entries) :
    entry ∈ entries := by
  rw [entries_of_mem_groupBy h] at hentry
  exact List.mem_of_mem_filter hentry

section Numbers

def figuresOf (valueColumn : String) (statistics : List Statistic) (group : Group String Row) :
    Row :=
  let numbers := columnNumbers valueColumn group.entries
  Row.ofCells (("group", .text group.key) :: statistics.map fun s => (s.column, s.compute numbers))

/-- The figures of a group that is left with its numbers alone. -/
def figuresOfNumbers (statistics : List Statistic) (group : Group String Float) : Row :=
  Row.ofCells
    (("group", .text group.key) :: statistics.map fun s => (s.column, s.compute group.entries))

/-- Puts a number at the end of those under its key. A key that is new gets a place also if there is
no number. -/
def addNumber (key : String) (number : Option Float) :
    List (Group String Float) → List (Group String Float)
  | [] => [⟨key, number.toList⟩]
  | group :: groups =>
    if key < group.key then ⟨key, number.toList⟩ :: group :: groups
    else if group.key < key then group :: addNumber key number groups
    else ⟨group.key, group.entries ++ number.toList⟩ :: groups

/-- The numbers of a column by key, collected row by row without keeping the rows. -/
def tally (valueColumn : String) (key : Key) (rows : Dataset) : List (Group String Float) :=
  rows.foldl (fun groups row => addNumber (key.ofRow row) (row.value valueColumn).number? groups) []

/-- Collecting numbers goes through the groups of the rows without the rows. -/
theorem tally_eq (valueColumn : String) (key : Key) (rows : Dataset) :
    tally valueColumn key rows =
      (groupBy key.ofRow rows).map fun group =>
        ⟨group.key, columnNumbers valueColumn group.entries⟩ := by
  let numbersOf : List (Group String Row) → List (Group String Float) :=
    List.map fun group => ⟨group.key, columnNumbers valueColumn group.entries⟩
  have hadd (groups : List (Group String Row)) (row : Row) :
      addNumber (key.ofRow row) (row.value valueColumn).number? (numbersOf groups) =
        numbersOf (addEntry (key.ofRow row) row groups) := by
    have hsingle : columnNumbers valueColumn [row] = (row.value valueColumn).number?.toList := by
      cases h : (row.value valueColumn).number? <;> simp [columnNumbers, h]
    induction groups with
    | nil => simp only [numbersOf, addEntry, List.map_cons, List.map_nil, addNumber, hsingle]
    | cons group groups ih =>
      simp only [numbersOf, List.map_cons, addNumber, addEntry]
      split
      · simp only [List.map_cons, hsingle]
      · split
        · exact congrArg _ ih
        · simp only [List.map_cons, ← hsingle, columnNumbers, List.filterMap_append]
  change rows.foldl (fun groups row =>
    addNumber (key.ofRow row) (row.value valueColumn).number? groups) (numbersOf []) = numbersOf _
  exact List.foldl_hom numbersOf hadd

/-- The table of figures needs the numbers of the groups only. -/
theorem statisticsBy_eq_tally (valueColumn : String) (key : Key) (statistics : List Statistic)
    (rows : Dataset) :
    statisticsBy valueColumn key statistics rows =
      (tally valueColumn key rows).map (figuresOfNumbers statistics) := by
  rw [tally_eq, List.map_map]
  rfl

end Numbers

end TableTalk.Grouping
