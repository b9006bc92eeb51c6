import TableTalk.Proofs.Decimal.Places
import TableTalk.Proofs.Engine.Keys
import TableTalk.Proofs.Listing
import TableTalk.Proofs.Magnitudes
import TableTalk.Proofs.Statistics.Frequencies

/-!
# Numbers that share a group

Rows are grouped and values are counted by their display, and the display of a number
has four places. Two numbers are told apart exactly if their signs or their rounded
ten-thousandths differ; numbers that are not told apart are at most one ten-thousandth
apart. Groups of rows, groups for figures and frequency tables divide all other numbers.
-/

namespace TableTalk

namespace Value

/-- Whether the value is a negative number or the zero with a minus sign. -/
def hasMinus (a : Value) : Bool :=
  decide (a.amount < 0) || a.isNegativeZero

/-- Two numbers have one sign and round to the same ten-thousandths. -/
def ShownAlike (a b : Value) : Prop :=
  a.hasMinus = b.hasMinus ∧
    Decimal.tenThousandths a.amount = Decimal.tenThousandths b.amount

instance (a b : Value) : Decidable (ShownAlike a b) :=
  inferInstanceAs (Decidable (_ ∧ _))

variable {a b : Value}

theorem hasMinus_integer (i : Int64) : (integer i).hasMinus = decide (i.toInt < 0) := by
  simp only [hasMinus, amount, isNegativeZero, Bool.or_false, Int.cast_lt_zero]

theorem hasMinus_float {x : Float} (finite : Decimal.isFinite x = true) :
    (float x).hasMinus = Decimal.isNegative x := by
  have hnearest := Decimal.isNearest_exact finite
  cases hsign : Decimal.isNegative x with
  | false =>
    have hle : 0 ≤ Decimal.exact x := hnearest.nonneg hsign
    rw [hasMinus, isNegativeZero, hsign, Bool.false_and, Bool.or_false]
    exact decide_eq_false hle.not_gt
  | true =>
    rcases (hnearest.nonpos hsign).lt_or_eq with hlt | hzero
    · simp only [hasMinus, amount, hlt, decide_true, Bool.true_or]
    · rw [hzero] at hnearest
      have hmagnitude : Decimal.magnitude x = 0 :=
        hnearest.magnitude_eq (Decimal.isNearest_zero (x := 0.0) (by decide))
      simp only [hasMinus, isNegativeZero, hsign, hmagnitude, beq_self_eq_true, Bool.and_self,
        Bool.or_true]

theorem amount_of_isNegativeZero (h : a.isNegativeZero = true) : a.amount = 0 := by
  cases a with
  | float x =>
    have hmagnitude : Decimal.magnitude x = 0 := beq_iff_eq.mp (Bool.and_eq_true_iff.mp h).2
    exact (Decimal.isNearest_zero hmagnitude).exact_eq (m := 0) (k := 0) (by simp) (by decide)
      (Or.inr rfl)
  | _ => cases h

theorem amount_eq_signed (a : Value) :
    a.amount = if a.hasMinus then -|a.amount| else |a.amount| := by
  cases h : a.hasMinus with
  | false =>
    have hle : 0 ≤ a.amount := not_lt.mp (of_decide_eq_false (Bool.or_eq_false_iff.mp h).1)
    rw [if_neg Bool.false_ne_true, abs_of_nonneg hle]
  | true =>
    have hle : a.amount ≤ 0 := by
      rcases Bool.or_eq_true_iff.mp h with h | h
      · exact (of_decide_eq_true h).le
      · exact (amount_of_isNegativeZero h).le
    rw [if_pos rfl, abs_of_nonpos hle, neg_neg]

/-- The display of a finite number is the spelling of its sign and its ten-thousandths. -/
theorem display_of_isNumeric (ha : a.isNumeric = true) :
    a.display = Decimal.signedText a.hasMinus
      (Decimal.unitsText (Decimal.tenThousandths a.amount)) := by
  obtain ⟨x, hx⟩ := Option.isSome_iff_exists.mp ha
  rcases cases_of_number? hx with ⟨i, rfl, -⟩ | ⟨rfl, finite⟩
  · rw [hasMinus_integer, amount, Decimal.tenThousandths_intCast, Decimal.unitsText_mul, display,
      integerText, Decimal.signedText]
    simp only [decide_eq_true_eq]
  · rw [hasMinus_float finite, amount, display, Decimal.tableText_eq finite]

theorem display_eq_iff (ha : a.isNumeric = true) (hb : b.isNumeric = true) :
    a.display = b.display ↔ ShownAlike a b := by
  rw [display_of_isNumeric ha, display_of_isNumeric hb]
  constructor
  · exact Decimal.signedText_unitsText_inj
  · rintro ⟨hsign, hunits⟩
    rw [hsign, hunits]

/-- Numbers that are shown alike are close to each other. -/
theorem abs_sub_le_of_shownAlike (alike : ShownAlike a b) :
    |a.amount - b.amount| ≤ 1 / 10 ^ 4 := by
  obtain ⟨hsign, hunits⟩ := alike
  have hdistance : |a.amount - b.amount| = |(|a.amount| - |b.amount|)| := by
    have hfirst := amount_eq_signed a
    have hsecond := amount_eq_signed b
    rw [hsign] at hfirst
    cases hminus : b.hasMinus with
    | false =>
      rw [hminus, if_neg Bool.false_ne_true] at hfirst hsecond
      rw [← hfirst, ← hsecond]
    | true =>
      rw [hminus, if_pos rfl] at hfirst hsecond
      rw [← neg_eq_iff_eq_neg.mpr hfirst, ← neg_eq_iff_eq_neg.mpr hsecond, neg_sub_neg,
        abs_sub_comm]
  have ha := abs_le.mp (Decimal.abs_sub_tenThousandths_le a.amount)
  have hb := abs_le.mp (Decimal.abs_sub_tenThousandths_le b.amount)
  rw [hunits] at ha
  rw [hdistance, abs_le]
  constructor
  · linarith only [ha.1, hb.2]
  · linarith only [ha.2, hb.1]

end Value

/-- Both of two entries are in some part, and no part has both. -/
def Divides {ρ : Type} (parts : List (List ρ)) (x y : ρ) : Prop :=
  (∃ part ∈ parts, x ∈ part) ∧ (∃ part ∈ parts, y ∈ part) ∧
    ∀ part ∈ parts, ¬ (x ∈ part ∧ y ∈ part)

/-- Parts by a key divide the entries with different keys. -/
theorem divides_filter_iff {ρ κ : Type} [DecidableEq κ] {key : ρ → κ} {keys : List κ}
    {entries : List ρ} (occurring : ∀ k, k ∈ keys ↔ ∃ entry ∈ entries, key entry = k) {x y : ρ}
    (hx : x ∈ entries) (hy : y ∈ entries) :
    Divides (keys.map fun k => entries.filter fun entry => key entry = k) x y ↔
      key x ≠ key y := by
  have hown {entry : ρ} (h : entry ∈ entries) :
      entry ∈ entries.filter fun other => key other = key entry :=
    List.mem_filter.mpr ⟨h, decide_eq_true rfl⟩
  have hpart {entry : ρ} (h : entry ∈ entries) :
      ∃ part ∈ keys.map (fun k => entries.filter fun other => key other = k), entry ∈ part :=
    ⟨_, List.mem_map_of_mem ((occurring _).mpr ⟨entry, h, rfl⟩), hown h⟩
  constructor
  · rintro ⟨-, -, hnone⟩ he
    refine hnone _ (List.mem_map_of_mem ((occurring _).mpr ⟨x, hx, rfl⟩)) ⟨hown hx, ?_⟩
    rw [he]
    exact hown hy
  · intro hne
    refine ⟨hpart hx, hpart hy, ?_⟩
    rintro part hmem ⟨hinx, hiny⟩
    obtain ⟨k, -, rfl⟩ := List.mem_map.mp hmem
    have hkx : key x = k := of_decide_eq_true (List.mem_filter.mp hinx).2
    have hky : key y = k := of_decide_eq_true (List.mem_filter.mp hiny).2
    exact hne (hkx.trans hky.symm)

namespace Statistics

variable {values : List Value} {withPercentage : Bool}

/-- An entry of a frequency table counts the values of a part, whose first one it shows. -/
def CountsPart (entry : Frequency) (part : List Value) : Prop :=
  part.head? = some entry.value ∧ entry.count = part.length

/-- The values of each display in a table. -/
def parts (values : List Value) (table : List Frequency) : List (List Value) :=
  (displays table).map fun display => values.filter fun value => value.display = display

theorem flatten_parts_perm (values : List Value) (withPercentage : Bool) :
    (parts values (frequencies values withPercentage)).flatten.Perm values := by
  -- the parts are the groups by display in the order of the table
  let groups := Grouping.groupBy Value.display values
  have hkeys : (groups.map Grouping.Group.key).Perm
      (displays (frequencies values withPercentage)) := by
    have hnodup : (groups.map Grouping.Group.key).Nodup :=
      (List.pairwise_map.mpr (Grouping.ascending_groupBy _ _)).imp ne_of_lt
    refine (List.perm_ext_iff_of_nodup hnodup nodup_displays).mpr fun display => ?_
    rw [mem_displays, Grouping.mem_keys_groupBy]
  have hentries : groups.flatMap Grouping.Group.entries =
      ((groups.map Grouping.Group.key).map fun display =>
        values.filter fun value => value.display = display).flatten := by
    rw [List.flatMap_def, Grouping.map_entries_groupBy]
  have hperm := Grouping.flatMap_groupBy_perm Value.display values
  rw [hentries] at hperm
  exact ((hkeys.map _).flatten).symm.trans hperm

theorem countsPart_parts (values : List Value) (withPercentage : Bool) :
    List.Forall₂ CountsPart (frequencies values withPercentage)
      (parts values (frequencies values withPercentage)) := by
  rw [parts, displays, List.map_map, List.forall₂_map_right_iff, List.forall₂_same]
  intro entry hentry
  obtain ⟨value, hvalue, rfl⟩ := List.mem_map.mp ((Listing.sort_perm _ _).subset hentry)
  constructor
  · have hhead := Listing.head?_filter_of_mem_distinctBy hvalue
    simp only [beq_eq_decide] at hhead
    exact hhead
  · rw [Function.comp_apply, ← List.countP_eq_length_filter]
    rfl

end Statistics

open Value in
/-- Two finite numbers of a column are told apart unless they are shown alike, which leaves them at
most one ten-thousandth apart. Otherwise their rows are in different groups of a group step over the
column, whatever else it groups by, and in different groups of the figures by column, and they are
counted in different entries of the frequency table of the column. -/
theorem divides_unless_shownAlike {rows : Dataset} {column : String} {first second : Row}
    (memFirst : first ∈ rows) (memSecond : second ∈ rows)
    (numberFirst : (first.value column).isNumeric = true)
    (numberSecond : (second.value column).isNumeric = true) :
    let a := first.value column
    let b := second.value column
    (ShownAlike a b → |a.amount - b.amount| ≤ 1 / 10 ^ 4) ∧
    (∀ (state next : Engine.State) columns time, state.working.output = rows → column ∈ columns →
      Engine.group state columns time = .ok next →
      ∃ groups : List Engine.RowGroup, next.working = .groups groups ∧
        (¬ ShownAlike a b → Divides (groups.map Engine.RowGroup.rows) first second) ∧
        (columns = [column] → time = none →
          (Divides (groups.map Engine.RowGroup.rows) first second ↔ ¬ ShownAlike a b))) ∧
    (∀ valueColumn statistics, ∃ groups : List (Grouping.Group String Row),
      Grouping.statisticsBy valueColumn (.column column) statistics rows =
        groups.map (Grouping.figuresOf valueColumn statistics) ∧
      (Divides (groups.map Grouping.Group.entries) first second ↔ ¬ ShownAlike a b)) ∧
    (∀ withPercentage, ∃ parts : List (List Value),
      let values := rows.map fun row => row.value column
      parts.flatten.Perm values ∧
      List.Forall₂ Statistics.CountsPart (Statistics.frequencies values withPercentage) parts ∧
      (Divides parts a b ↔ ¬ ShownAlike a b)) := by
  intro a b
  have halike : a.display = b.display ↔ ShownAlike a b := display_eq_iff numberFirst numberSecond
  refine ⟨abs_sub_le_of_shownAlike, ?_, ?_, ?_⟩
  · intro state next columns time houtput names h
    obtain ⟨period, keys, hperiod, hkeys, -, rfl⟩ := Engine.exists_keys_of_group h
    rw [houtput] at hperiod hkeys ⊢
    have hdivides := divides_filter_iff hkeys memFirst memSecond
    refine ⟨_, rfl, ?_⟩
    rw [List.map_map]
    refine ⟨fun hne => hdivides.mpr fun hkey => hne ?_, ?_⟩
    · exact halike.mp (Engine.display_eq_of_keyTuple names hkey)
    · rintro rfl rfl
      obtain rfl : period = none := (Except.ok.inj hperiod).symm
      refine hdivides.trans (not_congr ?_)
      rw [← halike]
      exact List.singleton_inj
  · intro valueColumn statistics
    refine ⟨_, rfl, ?_⟩
    rw [Grouping.map_entries_groupBy, ← halike]
    exact divides_filter_iff (fun _ => Grouping.mem_keys_groupBy) memFirst memSecond
  · intro withPercentage
    refine ⟨_, Statistics.flatten_parts_perm _ _, Statistics.countsPart_parts _ _, ?_⟩
    rw [← halike]
    exact divides_filter_iff (fun _ => Statistics.mem_displays)
      (List.mem_map_of_mem memFirst) (List.mem_map_of_mem memSecond)

/-- Numbers on the two sides of half a ten-thousandth are told apart by a group step. -/
theorem divides_around_half :
    let a : Value := .float 0.00004
    let b : Value := .float 0.00005
    let first : Row := .ofCells [("size", a)]
    let second : Row := .ofCells [("size", b)]
    let state : Engine.State := { working := .rows [first, second] }
    let groups : List Engine.RowGroup := [⟨first, [first]⟩, ⟨second, [second]⟩]
    a.isNumeric = true ∧ b.isNumeric = true ∧ ¬ Value.ShownAlike a b ∧
    Engine.group state ["size"] none = .ok { working := .groups groups } ∧
    Divides (groups.map Engine.RowGroup.rows) first second := by
  intro a b first second state groups
  have ha : a.isNumeric = true := by decide +kernel
  have hb : b.isNumeric = true := by decide +kernel
  have hne : ¬ Value.ShownAlike a b := by decide +kernel
  have hgroup : Engine.group state ["size"] none = .ok { working := .groups groups } := by
    rw [Engine.group_eq_ok]
    exact ⟨rfl, none, rfl, by decide +kernel⟩
  have hfirst : first ∈ [first, second] := List.mem_cons_self
  have hsecond : second ∈ [first, second] := List.mem_cons_of_mem first List.mem_cons_self
  obtain ⟨-, hgroups, -⟩ := @divides_unless_shownAlike _ "size" _ _ hfirst hsecond ha hb
  obtain ⟨found, hfound, hdivides, -⟩ :=
    hgroups state _ ["size"] none rfl (List.mem_singleton.mpr rfl) hgroup
  obtain rfl : groups = found := Engine.WorkingSet.groups.inj hfound
  exact ⟨ha, hb, hne, hgroup, hdivides hne⟩

/-- Two different numbers below half of a ten-thousandth are one group and one entry. -/
theorem tiny_numbers_share_group :
    let a : Value := .float 0.00001
    let b : Value := .float 0.00002
    let rows : Dataset := [.ofCells [("size", a)], .ofCells [("size", b)]]
    let state : Engine.State := { working := .rows rows }
    Value.compare a b = .lt ∧
    Engine.group state ["size"] none =
      .ok { working := .groups [⟨.ofCells [("size", a)], rows⟩] } ∧
    Grouping.statisticsBy "size" (.column "size") [.count] rows =
      [.ofCells [("group", .text "0"), ("count", .integer 2)]] ∧
    (Statistics.frequencies [a, b] false).map Statistics.Frequency.count = [2] := by
  intro a b rows state
  have hgroup : Engine.group state ["size"] none =
      .ok { working := .groups [⟨.ofCells [("size", a)], rows⟩] } := by
    rw [Engine.group_eq_ok]
    exact ⟨rfl, none, rfl, by decide +kernel⟩
  exact ⟨by decide +kernel, hgroup, by decide +kernel, by decide +kernel⟩

end TableTalk
