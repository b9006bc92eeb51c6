import Mathlib
import TableTalk.Calendar.Read

/-!
# What the readers of dates take

Every item of a shape takes characters of its own class from the front of a text, and only
fractions and spaces can do without any. The characters of a text therefore tell which shapes
can read it: all of them have to be taken, and each item has to find its own. None of the
readers takes a digit that is not an ASCII digit.
-/

namespace TableTalk.Text

variable {c : Char}

theorem isDigit_iff_toNat : c.isDigit = true ↔ 0x30 ≤ c.toNat ∧ c.toNat ≤ 0x39 := by
  simp only [Char.isDigit, Bool.and_eq_true, decide_eq_true_eq, ge_iff_le, UInt32.le_iff_toNat_le]
  rfl

theorem isWordDigit_of_isDigit (h : c.isDigit = true) : isWordDigit c = true := by
  have hbound : c.toNat < 0x80 := by
    rw [isDigit_iff_toNat] at h
    omega
  simp [isWordDigit, isDecimalDigit, isRecent, hbound, h]

theorem isAlpha_iff_toNat : c.isAlpha = true ↔
    (0x41 ≤ c.toNat ∧ c.toNat ≤ 0x5A) ∨ (0x61 ≤ c.toNat ∧ c.toNat ≤ 0x7A) := by
  simp only [Char.isAlpha, Char.isUpper, Char.isLower, Bool.or_eq_true, Bool.and_eq_true,
    decide_eq_true_eq, ge_iff_le, UInt32.le_iff_toNat_le]
  rfl

theorem not_isDigit_of_isAlpha (h : c.isAlpha = true) : c.isDigit = false := by
  rw [isAlpha_iff_toNat] at h
  rw [← Bool.not_eq_true, isDigit_iff_toNat]
  omega

theorem not_isWordDigit_of_isAlpha (h : c.isAlpha = true) : isWordDigit c = false := by
  have hbound : c.toNat < 0x80 := by
    rw [isAlpha_iff_toNat] at h
    omega
  simp [isWordDigit, isDecimalDigit, hbound, not_isDigit_of_isAlpha h]

theorem not_isBlank_of_isAlpha (h : c.isAlpha = true) : isBlank c = false := by
  rw [isAlpha_iff_toNat] at h
  rw [← Bool.not_eq_true]
  simp only [isBlank, Bool.or_eq_true, Bool.and_eq_true, decide_eq_true_eq, beq_iff_eq]
  omega

/-- The code points of blanks. -/
def blankRanges : Ranges :=
  [(0x09, 0x0D), (0x20, 0x20), (0x85, 0x85), (0xA0, 0xA0), (0x1680, 0x1680), (0x2000, 0x200A),
    (0x2028, 0x2029), (0x202F, 0x202F), (0x205F, 0x205F), (0x3000, 0x3000)]

theorem contains_blankRanges (h : isBlank c = true) : blankRanges.contains c = true := by
  simp only [isBlank, Bool.or_eq_true, Bool.and_eq_true, decide_eq_true_eq, beq_iff_eq] at h
  simp only [Ranges.contains_iff, blankRanges, List.mem_cons, List.not_mem_nil, or_false,
    exists_eq_or_imp, exists_eq_left]
  omega

theorem contains_digitRanges (h : isWordDigit c = true) : digitRanges.contains c = true := by
  rw [isWordDigit, Bool.and_eq_true] at h
  have hdecimal := h.1
  rw [isDecimalDigit] at hdecimal
  split at hdecimal
  · exact Ranges.contains_iff.mpr ⟨(0x30, 0x39), by decide, isDigit_iff_toNat.mp hdecimal⟩
  · exact hdecimal

theorem not_isBlank_of_isWordDigit (h : isWordDigit c = true) : isBlank c = false := by
  have hapart : ∀ digits ∈ digitRanges, ∀ blanks ∈ blankRanges,
      digits.2 < blanks.1 ∨ blanks.2 < digits.1 := by decide +kernel
  rw [← Bool.not_eq_true]
  intro hblank
  obtain ⟨digits, hdigits, hin⟩ := Ranges.contains_iff.mp (contains_digitRanges h)
  obtain ⟨blanks, hblanks, hout⟩ := Ranges.contains_iff.mp (contains_blankRanges hblank)
  have hdisjoint := hapart digits hdigits blanks hblanks
  omega

end TableTalk.Text

namespace TableTalk.Calendar

open TableTalk.Decimal (digitsValue)
open TableTalk.Text (isBlank isWordDigit)

variable {p : Char → Bool} {cs run rest : List Char}

/-- No character of a class stands at the front. -/
def Stops (p : Char → Bool) (cs : List Char) : Prop := ∀ c ∈ cs.head?, p c = false

theorem takeWhile_append (all : ∀ c ∈ run, p c = true) (stops : Stops p rest) :
    (run ++ rest).takeWhile p = run := by
  rw [List.takeWhile_append_of_pos all]
  cases rest with
  | nil => simp
  | cons c rest => simp [stops c rfl]

theorem dropWhile_append (all : ∀ c ∈ run, p c = true) (stops : Stops p rest) :
    (run ++ rest).dropWhile p = rest := by
  rw [List.dropWhile_append_of_pos all]
  cases rest with
  | nil => rfl
  | cons c rest => simp [stops c rfl]

/-- What is left of a text once characters of a class are taken from the front. -/
def Takes (p : Char → Bool) (cs rest : List Char) : Prop :=
  ∃ taken, cs = taken ++ rest ∧ ∀ c ∈ taken, p c = true

namespace Takes

variable {q : Char → Bool} {c : Char} {middle : List Char}

theorem refl (cs : List Char) : Takes p cs cs := ⟨[], rfl, by simp⟩

theorem trans (h : Takes p cs middle) (h' : Takes p middle rest) : Takes p cs rest := by
  obtain ⟨first, rfl, hfirst⟩ := h
  obtain ⟨second, rfl, hsecond⟩ := h'
  refine ⟨first ++ second, (List.append_assoc ..).symm, fun c hc => ?_⟩
  exact (List.mem_append.mp hc).elim (hfirst c) (hsecond c)

theorem mono (h : Takes p cs rest) (le : ∀ c, p c = true → q c = true) : Takes q cs rest := by
  obtain ⟨taken, hcs, hall⟩ := h
  exact ⟨taken, hcs, fun c hc => le c (hall c hc)⟩

theorem cons (hc : p c = true) (h : Takes p cs rest) : Takes p (c :: cs) rest := by
  obtain ⟨taken, rfl, hall⟩ := h
  exact ⟨c :: taken, rfl, by simpa [hc] using hall⟩

theorem dropWhile (p : Char → Bool) (cs : List Char) : Takes p cs (cs.dropWhile p) :=
  ⟨cs.takeWhile p, List.takeWhile_append_dropWhile.symm, fun _ hc => List.mem_takeWhile_imp hc⟩

theorem length_le (h : Takes p cs rest) : rest.length ≤ cs.length := by
  obtain ⟨taken, rfl, -⟩ := h
  rw [List.length_append]
  omega

/-- What is taken from a text is not in the rest of it. -/
theorem exists_mem (h : Takes p cs rest) (lt : rest.length < cs.length) : ∃ c ∈ cs, p c = true := by
  obtain ⟨taken, rfl, hall⟩ := h
  cases taken with
  | nil => exact absurd lt (lt_irrefl _)
  | cons c taken => exact ⟨c, by simp, hall c (by simp)⟩

theorem mem_or (h : Takes p cs rest) (hc : c ∈ cs) : p c = true ∨ c ∈ rest := by
  obtain ⟨taken, rfl, hall⟩ := h
  exact (List.mem_append.mp hc).imp_left (hall c)

theorem subset (h : Takes p cs rest) : rest ⊆ cs := by
  obtain ⟨taken, rfl, -⟩ := h
  exact List.subset_append_right _ _

end Takes

section Numbers

variable {least most n : Nat}

/-- Reading a number takes digits. -/
theorem takes_of_number? (h : number? least most cs = some (n, rest)) :
    Takes Char.isDigit cs rest ∧ rest.length + least ≤ cs.length := by
  have hprefix : (cs.take most).takeWhile Char.isDigit <+: cs :=
    (List.takeWhile_prefix _).trans (List.take_prefix most cs)
  simp only [number?] at h
  split at h
  · cases h
  case isFalse hlong =>
    obtain ⟨-, rfl⟩ := Prod.mk.inj (Option.some.inj h)
    refine ⟨⟨_, (List.prefix_iff_eq_append.mp hprefix).symm, fun c hc =>
      List.mem_takeWhile_imp hc⟩, ?_⟩
    have hlength := hprefix.length_le
    rw [List.length_drop]
    omega

/-- A number is read up to its last digit or until it is as long as it may be. -/
theorem number?_append (digits : ∀ c ∈ run, c.isDigit = true) (hleast : least ≤ run.length)
    (hmost : run.length ≤ most) (stops : run.length = most ∨ Stops Char.isDigit rest) :
    number? least most (run ++ rest) = some (digitsValue run, rest) := by
  have hrun : ((run ++ rest).take most).takeWhile Char.isDigit = run := by
    rw [List.take_append, List.take_of_length_le hmost]
    refine takeWhile_append digits ?_
    rcases stops with hfull | hstops
    · simp [hfull, Stops]
    · intro c hc
      rw [List.head?_take] at hc
      split at hc
      · cases hc
      · exact hstops c hc
  simp only [number?, hrun, Nat.not_lt.mpr hleast, ↓reduceIte, List.drop_left]

theorem number?_of_stops (pos : 0 < least) (h : Stops Char.isDigit cs) :
    number? least most cs = none := by
  have hrun : (cs.take most).takeWhile Char.isDigit = [] := by
    cases cs with
    | nil => simp
    | cons c cs =>
      cases most with
      | zero => rfl
      | succ most => simp [h c rfl]
  simp [number?, hrun, pos]

end Numbers

/-- Whether a word is the name of a month or its first three letters, in any case. -/
def NamesMonth (word : List Char) (month : Nat) : Prop :=
  ∃ name, (name, month) ∈ monthNames.zipIdx 1 ∧
    (word.map Char.toLower = name.toList.take 3 ∨ word.map Char.toLower = name.toList)

section Months

variable {word : List Char} {month n : Nat} {full : Bool}

theorem mem_zipIdx_monthNames {name : String} {month : Nat} :
    (name, month + 1) ∈ monthNames.zipIdx 1 ↔ monthNames[month]? = some name := by
  rw [List.mk_mem_zipIdx_iff_le_and_getElem?_sub]
  simp

theorem isLower_of_mem_monthNames {name : String} (hname : name ∈ monthNames) {c : Char}
    (hc : c ∈ name.toList) : c.isLower = true := by
  have hlower : ∀ name ∈ monthNames, ∀ c ∈ name.toList, c.isLower = true := by
    simp [monthNames, Char.isLower]
  exact hlower name hname c hc

theorem le_length_of_mem_monthNames {name : String} (hname : name ∈ monthNames) :
    3 ≤ name.toList.length := by
  have hlong : ∀ name ∈ monthNames, 3 ≤ name.toList.length := by decide +kernel
  exact hlong name hname

theorem NamesMonth.isAlpha (h : NamesMonth word month) : ∀ c ∈ word, c.isAlpha = true := by
  obtain ⟨name, hname, hword⟩ := h
  intro c hc
  have hmem : c.toLower ∈ name.toList := by
    have hlowered : c.toLower ∈ word.map Char.toLower := List.mem_map_of_mem hc
    rcases hword with hshort | hfull
    · exact List.mem_of_mem_take (hshort ▸ hlowered)
    · exact hfull ▸ hlowered
  rw [← Char.isLower_toLower_eq_isAlpha]
  exact isLower_of_mem_monthNames (List.fst_mem_of_mem_zipIdx hname) hmem

theorem NamesMonth.le_length (h : NamesMonth word month) : 3 ≤ word.length := by
  obtain ⟨name, hname, hword⟩ := h
  have hlength : 3 ≤ name.toList.length :=
    le_length_of_mem_monthNames (List.fst_mem_of_mem_zipIdx hname)
  rw [← List.length_map Char.toLower]
  rcases hword with hshort | hfull
  · rw [hshort, List.length_take]
    omega
  · rwa [hfull]

theorem beginsWith_iff {name : List Char} :
    beginsWith name cs = true ↔ (cs.take name.length).map Char.toLower = name := by
  rw [beginsWith, List.isPrefixOf_iff_prefix, List.prefix_iff_eq_take, List.map_take, eq_comm]

/-- A month's name is read up to its third letter or its end. -/
theorem namesMonth_of_monthName? (h : monthName? full cs = some (n, rest)) :
    ∃ word, cs = word ++ rest ∧ NamesMonth word n := by
  simp only [monthName?, Option.bind_eq_bind, Option.bind_eq_some_iff] at h
  obtain ⟨index, hindex, letters, hletters, hrest⟩ := h
  obtain ⟨rfl, rfl⟩ := Prod.mk.inj (Option.some.inj hrest)
  obtain ⟨hlt, hbegins, -⟩ := List.findIdx?_eq_some_iff_getElem.mp hindex
  rw [(List.getElem?_eq_some_iff.mp hletters).2] at hbegins
  rw [List.getElem?_map] at hletters
  obtain ⟨name, hname, rfl⟩ := Option.map_eq_some_iff.mp hletters
  refine ⟨_, (List.take_append_drop _ cs).symm, name, mem_zipIdx_monthNames.mpr hname, ?_⟩
  split
  case isTrue hfull =>
    rw [Bool.and_eq_true] at hfull
    exact Or.inr (beginsWith_iff.mp hfull.2)
  case isFalse =>
    have hlength := le_length_of_mem_monthNames (List.mem_of_getElem? hname)
    rw [beginsWith_iff, List.length_take, Nat.min_eq_left hlength] at hbegins
    exact Or.inl hbegins

/-- The first three letters of its name tell a month from the others. -/
theorem findIdx?_monthNames {index : Nat} {name : String} (hname : monthNames[index]? = some name)
    (begins : beginsWith (name.toList.take 3) cs = true) :
    (monthNames.map String.toList).findIdx? (fun name => beginsWith (name.take 3) cs) =
      some index := by
  have hlong : ∀ letters ∈ monthNames.map String.toList, 3 ≤ letters.length := by decide +kernel
  have hdistinct : (monthNames.map String.toList).Pairwise fun first second =>
      first.take 3 ≠ second.take 3 := by decide +kernel
  have hstart {letters : List Char} (hmem : letters ∈ monthNames.map String.toList)
      (h : beginsWith (letters.take 3) cs = true) :
      letters.take 3 = (cs.take 3).map Char.toLower := by
    rw [beginsWith_iff, List.length_take, Nat.min_eq_left (hlong letters hmem)] at h
    exact h.symm
  have hname : (monthNames.map String.toList)[index]? = some name.toList := by simp [hname]
  obtain ⟨hlt, heq⟩ := List.getElem?_eq_some_iff.mp hname
  rw [← heq] at begins
  -- an earlier name with these letters would have the same first letters as a later one
  rw [List.findIdx?_eq_some_iff_getElem]
  refine ⟨hlt, begins, fun earlier hearlier hbegins => ?_⟩
  refine List.pairwise_iff_getElem.mp hdistinct earlier index (by omega) hlt hearlier ?_
  exact (hstart (List.getElem_mem _) hbegins).trans (hstart (List.getElem_mem _) begins).symm

theorem beginsWith_append {name : List Char} (h : name <+: word.map Char.toLower) :
    beginsWith name (word ++ rest) = true := by
  rw [beginsWith, List.isPrefixOf_iff_prefix, List.map_append]
  exact h.trans (List.prefix_append _ _)

/-- Three letters in front of something else begin with a whole name only if it has no more. -/
theorem length_of_beginsWith {name : String} (hname : name ∈ monthNames)
    (short : word.map Char.toLower = name.toList.take 3) (stops : Stops Char.isAlpha rest)
    (begins : beginsWith name.toList (word ++ rest) = true) : name.toList.length ≤ 3 := by
  rw [beginsWith, List.isPrefixOf_iff_prefix, List.map_append, short] at begins
  have hrest : name.toList.drop 3 <+: rest.map Char.toLower := by
    rwa [← List.prefix_append_right_inj (name.toList.take 3), List.take_append_drop]
  rw [← List.drop_eq_nil_iff]
  cases hdrop : name.toList.drop 3 with
  | nil => rfl
  | cons c tail =>
    cases rest with
    | nil =>
      rw [hdrop] at hrest
      exact absurd (List.prefix_nil.mp hrest) nofun
    | cons d rest =>
      rw [hdrop, List.map_cons, List.cons_prefix_cons] at hrest
      have hlower : c.isLower = true :=
        isLower_of_mem_monthNames hname (List.mem_of_mem_drop (hdrop ▸ List.mem_cons_self))
      rw [hrest.1, Char.isLower_toLower_eq_isAlpha, stops d rfl] at hlower
      cases hlower

/-- A month's name is read to its end, where no letter follows. -/
theorem monthName?_append (names : NamesMonth word month) (stops : Stops Char.isAlpha rest) :
    monthName? true (word ++ rest) = some (month, rest) := by
  have hthree := names.le_length
  obtain ⟨name, hmem, hword⟩ := names
  obtain ⟨index, rfl⟩ : ∃ index, month = index + 1 :=
    Nat.exists_eq_add_of_le' (List.le_snd_of_mem_zipIdx hmem)
  have hname := mem_zipIdx_monthNames.mp hmem
  have hbegins : beginsWith (name.toList.take 3) (word ++ rest) = true := by
    refine beginsWith_append ?_
    rcases hword with hshort | hfull
    · exact hshort ▸ List.prefix_rfl
    · exact hfull ▸ List.take_prefix 3 _
  have hlength : (if beginsWith name.toList (word ++ rest) then name.toList.length else 3) =
      word.length := by
    have hlower : (word.map Char.toLower).length = word.length := List.length_map _
    rcases hword with hshort | hfull
    · have hletters := congrArg List.length hshort
      rw [List.length_take] at hletters
      split
      case isTrue hwhole =>
        have hle := length_of_beginsWith (List.mem_of_getElem? hname) hshort stops hwhole
        omega
      case isFalse => omega
    · rw [if_pos (beginsWith_append (hfull ▸ List.prefix_rfl)), ← hfull, hlower]
  simp only [monthName?, findIdx?_monthNames hname hbegins, List.getElem?_map, hname,
    Option.map_some, Option.bind_eq_bind, Option.bind_some, Bool.true_and, hlength]
  rw [List.drop_left]
  rfl

end Months

/-- The characters that an item of a shape can take. -/
def Item.takes : Item → Char → Bool
  | .year, c => isBlank c || c.isDigit || c == '-' || c == '+'
  | .number _, c => isBlank c || c.isDigit
  | .shortMonth, c | .month, c => c.isAlpha
  | .fraction, c => c == '.' || c.isDigit
  | .space, c => isBlank c
  | .literal d, c => c == d

/-- Whether an item can do without any character. -/
def Item.skips : Item → Bool
  | .fraction | .space => true
  | .year | .number _ | .shortMonth | .month | .literal _ => false

theorem takes_of_year? {n : Int} (h : year? cs = some (n, rest)) :
    Takes Item.year.takes cs rest ∧ rest.length < cs.length := by
  have hblanks : Takes Item.year.takes cs (cs.dropWhile isBlank) :=
    (Takes.dropWhile isBlank cs).mono fun c hc => by simp [Item.takes, hc]
  have hdigits {least most n : Nat} {body rest : List Char}
      (hread : number? least most body = some (n, rest)) : Takes Item.year.takes body rest :=
    (takes_of_number? hread).1.mono fun c hc => by simp [Item.takes, hc]
  have hlength := hblanks.length_le
  rw [year?] at h
  split at h
  all_goals
    obtain ⟨⟨m, rest⟩, hread, hm⟩ := Option.map_eq_some_iff.mp h
    obtain ⟨-, rfl⟩ := Prod.mk.inj hm
    have hshorter := (takes_of_number? hread).2
  case h_1 body hbody =>
    rw [hbody] at hblanks hlength
    rw [List.length_cons] at hlength
    exact ⟨hblanks.trans ((hdigits hread).cons rfl), by omega⟩
  case h_2 body hbody =>
    rw [hbody] at hblanks hlength
    rw [List.length_cons] at hlength
    exact ⟨hblanks.trans ((hdigits hread).cons rfl), by omega⟩
  case h_3 => exact ⟨hblanks.trans (hdigits hread), by omega⟩

theorem takes_of_monthName? {full : Bool} {n : Nat} (h : monthName? full cs = some (n, rest)) :
    Takes Char.isAlpha cs rest ∧ rest.length < cs.length := by
  obtain ⟨word, rfl, hword⟩ := namesMonth_of_monthName? h
  have hlength := hword.le_length
  rw [List.length_append]
  exact ⟨⟨word, rfl, hword.isAlpha⟩, by omega⟩

theorem takes_of_nanosecond? {n : Nat} (h : nanosecond? cs = some (n, rest)) :
    Takes Char.isDigit cs rest := by
  simp only [nanosecond?] at h
  split at h
  · cases h
  · obtain ⟨-, rfl⟩ := Prod.mk.inj (Option.some.inj h)
    refine ⟨_, (List.prefix_iff_eq_append.mp (List.takeWhile_prefix _)).symm, fun c hc =>
      List.mem_takeWhile_imp hc⟩

/-- What an item leaves is the text behind the characters that it takes. -/
theorem takes_of_read? {item : Item} {parts parts' : Parts}
    (h : item.read? parts cs = some (parts', rest)) :
    Takes item.takes cs rest ∧ (item.skips = false → rest.length < cs.length) := by
  cases item with
  | year =>
    obtain ⟨⟨n, rest⟩, hread, hn⟩ := Option.map_eq_some_iff.mp h
    obtain ⟨-, rfl⟩ := Prod.mk.inj hn
    exact (takes_of_year? hread).imp_right fun hlt _ => hlt
  | number field =>
    obtain ⟨⟨n, rest⟩, hread, hn⟩ := Option.map_eq_some_iff.mp h
    obtain ⟨-, rfl⟩ := Prod.mk.inj hn
    have hblanks : Takes (Item.number field).takes cs (cs.dropWhile isBlank) :=
      (Takes.dropWhile isBlank cs).mono fun c hc => by simp [Item.takes, hc]
    have hlength := hblanks.length_le
    obtain ⟨hdigits, hlt⟩ := takes_of_number? hread
    exact ⟨hblanks.trans (hdigits.mono fun c hc => by simp [Item.takes, hc]), fun _ => by omega⟩
  | shortMonth | month =>
    obtain ⟨⟨n, rest⟩, hread, hn⟩ := Option.map_eq_some_iff.mp h
    obtain ⟨-, rfl⟩ := Prod.mk.inj hn
    exact (takes_of_monthName? hread).imp_right fun hlt _ => hlt
  | fraction =>
    refine ⟨?_, nofun⟩
    simp only [Item.read?] at h
    split at h
    · obtain ⟨⟨n, rest⟩, hread, hn⟩ := Option.map_eq_some_iff.mp h
      obtain ⟨-, rfl⟩ := Prod.mk.inj hn
      exact ((takes_of_nanosecond? hread).mono fun c hc => by simp [Item.takes, hc]).cons rfl
    · obtain ⟨-, rfl⟩ := Prod.mk.inj (Option.some.inj h)
      exact Takes.refl _
  | space =>
    obtain ⟨-, rfl⟩ := Prod.mk.inj (Option.some.inj h)
    exact ⟨Takes.dropWhile isBlank cs, nofun⟩
  | literal c =>
    cases cs with
    | nil => cases h
    | cons d cs =>
      simp only [Item.read?] at h
      split at h
      case isFalse => cases h
      case isTrue heq =>
        obtain ⟨-, rfl⟩ := Prod.mk.inj (Option.some.inj h)
        obtain rfl := eq_of_beq heq
        exact ⟨(Takes.refl _).cons (beq_self_eq_true c), fun _ => by simp⟩

section Shapes

variable {shape : List Item} {parts out : Parts}

theorem readShape?_cons {item : Item} :
    readShape? (item :: shape) parts cs =
      (item.read? parts cs).bind fun read => readShape? shape read.1 read.2 := rfl

/-- A shape reads a text only if some item takes each of its characters. -/
theorem takes_of_readShape? (h : readShape? shape parts cs = some out) {c : Char} (hc : c ∈ cs) :
    ∃ item ∈ shape, item.takes c = true := by
  induction shape generalizing parts cs with
  | nil =>
    cases cs with
    | nil => cases hc
    | cons d cs => cases h
  | cons item shape ih =>
    rw [readShape?_cons] at h
    obtain ⟨⟨next, rest⟩, hread, hrest⟩ := Option.bind_eq_some_iff.mp h
    -- the first item takes the character, or leaves it to the items behind it
    rcases (takes_of_read? hread).1.mem_or hc with htakes | hmem
    · exact ⟨item, by simp, htakes⟩
    · obtain ⟨later, hlater, htakes⟩ := ih hrest hmem
      exact ⟨later, by simp [hlater], htakes⟩

/-- A shape reads a text only if each item that needs a character finds one. -/
theorem exists_mem_of_readShape? (h : readShape? shape parts cs = some out) {item : Item}
    (hitem : item ∈ shape) (needs : item.skips = false) : ∃ c ∈ cs, item.takes c = true := by
  induction shape generalizing parts cs with
  | nil => cases hitem
  | cons first shape ih =>
    rw [readShape?_cons] at h
    obtain ⟨⟨next, rest⟩, hread, hrest⟩ := Option.bind_eq_some_iff.mp h
    obtain ⟨htakes, hlt⟩ := takes_of_read? hread
    rcases List.mem_cons.mp hitem with rfl | hlater
    · exact htakes.exists_mem (hlt needs)
    · obtain ⟨c, hc, hc'⟩ := ih hrest hlater
      exact ⟨c, htakes.subset hc, hc'⟩

theorem mem_of_readShape? (h : readShape? shape parts cs = some out) {c : Char}
    (literal : .literal c ∈ shape) : c ∈ cs := by
  obtain ⟨d, hd, heq⟩ := exists_mem_of_readShape? h literal rfl
  obtain rfl := eq_of_beq heq
  exact hd

end Shapes

/-- Whether a character is no digit of another script. -/
def isPlain (c : Char) : Bool := !isWordDigit c || c.isDigit

theorem isPlain_of_isDigit {c : Char} (h : c.isDigit = true) : isPlain c = true := by
  simp [isPlain, h]

/-- Items take no digits of other scripts, apart from literals. -/
theorem isPlain_of_takes {item : Item} {c : Char} (h : item.takes c = true) :
    isPlain c = true ∨ item = .literal c := by
  have hblank (hblank : isBlank c = true) : isPlain c = true := by
    cases hdigit : isWordDigit c with
    | false => simp [isPlain, hdigit]
    | true =>
      rw [Text.not_isBlank_of_isWordDigit hdigit] at hblank
      cases hblank
  cases item with
  | year =>
    simp only [Item.takes, Bool.or_eq_true, beq_iff_eq] at h
    rcases h with ((h | h) | rfl) | rfl
    · exact Or.inl (hblank h)
    · exact Or.inl (isPlain_of_isDigit h)
    · exact Or.inl (by decide)
    · exact Or.inl (by decide)
  | number field =>
    rw [Item.takes, Bool.or_eq_true] at h
    exact Or.inl (h.elim hblank isPlain_of_isDigit)
  | shortMonth | month =>
    rw [isPlain, Text.not_isWordDigit_of_isAlpha h]
    exact Or.inl rfl
  | fraction =>
    simp only [Item.takes, Bool.or_eq_true, beq_iff_eq] at h
    rcases h with rfl | h
    · exact Or.inl (by decide)
    · exact Or.inl (isPlain_of_isDigit h)
  | space => exact Or.inl (hblank h)
  | literal d => exact Or.inr (by rw [eq_of_beq h])

theorem isPlain_of_readShape? {shape : List Item} {parts out : Parts}
    (known : shape ∈ timestampShapes ++ dateShapes) (h : readShape? shape parts cs = some out)
    {c : Char} (hc : c ∈ cs) : isPlain c = true := by
  have hliterals : ∀ shape ∈ timestampShapes ++ dateShapes, ∀ item ∈ shape,
      (match item with | .literal d => isPlain d | _ => true) = true := by decide +kernel
  obtain ⟨item, hitem, htakes⟩ := takes_of_readShape? h hc
  rcases isPlain_of_takes htakes with hplain | rfl
  · exact hplain
  · exact hliterals shape known _ hitem

theorem eq_of_literal? {c : Char} (h : literal? c cs = some rest) : cs = c :: rest := by
  cases cs with
  | nil => cases h
  | cons d cs =>
    rw [literal?] at h
    split at h
    case isTrue heq => rw [eq_of_beq heq, Option.some.inj h]
    case isFalse => cases h

/-- Characters are taken from the front, at least some number of them and none of them a digit of
another script. -/
def TakesPlain (least : Nat) (cs rest : List Char) : Prop :=
  Takes isPlain cs rest ∧ rest.length + least ≤ cs.length

theorem TakesPlain.trans {first second : Nat} {middle : List Char}
    (h : TakesPlain first cs middle) (h' : TakesPlain second middle rest) :
    TakesPlain (first + second) cs rest := by
  refine ⟨h.1.trans h'.1, ?_⟩
  have hfirst := h.2
  have hsecond := h'.2
  omega

theorem takesPlain_of_literal? {c : Char} (plain : isPlain c = true)
    (h : literal? c cs = some rest) : TakesPlain 1 cs rest := by
  rw [eq_of_literal? h]
  exact ⟨(Takes.refl rest).cons plain, Nat.le_refl _⟩

theorem takesPlain_of_number? {least most n : Nat} (h : number? least most cs = some (n, rest)) :
    TakesPlain least cs rest :=
  (takes_of_number? h).imp_left fun htakes => htakes.mono fun _ => isPlain_of_isDigit

/-- Reads an offset behind its sign. -/
def shift? (direction : Int) (cs : List Char) : Option Int := do
  let (hours, rest) ← number? 2 2 cs
  let rest ← literal? ':' rest
  let (minutes, rest) ← number? 2 2 rest
  if rest.isEmpty && minutes < 60 && hours < 24 then
    some (direction * (hours * 3600 + minutes * 60 : Nat))
  else none

/-- Offsets are plain characters to the end, and whole minutes. -/
theorem takes_of_shift? {direction n : Int} (h : shift? direction cs = some n) :
    Takes isPlain cs [] ∧ 60 ∣ n := by
  simp only [shift?, Option.bind_eq_bind] at h
  obtain ⟨⟨hours, cs₁⟩, hhours, h⟩ := Option.bind_eq_some_iff.mp h
  obtain ⟨cs₂, hcolon, h⟩ := Option.bind_eq_some_iff.mp h
  obtain ⟨⟨minutes, cs₃⟩, hminutes, h⟩ := Option.bind_eq_some_iff.mp h
  dsimp only at h
  split at h
  case isFalse => cases h
  case isTrue hrange =>
    simp only [Bool.and_eq_true, List.isEmpty_iff] at hrange
    rw [hrange.1.1] at hminutes
    refine ⟨((takesPlain_of_number? hhours).trans
      ((takesPlain_of_literal? (by decide) hcolon).trans (takesPlain_of_number? hminutes))).1, ?_⟩
    rw [← Option.some.inj h]
    exact Dvd.dvd.mul_left (by omega) direction

theorem takes_of_offset? {n : Int} (h : offset? cs = some n) : Takes isPlain cs [] ∧ 60 ∣ n := by
  have hzone {c : Char} (plain : isPlain c = true) (h : some 0 = some n) :
      Takes isPlain [c] [] ∧ 60 ∣ n :=
    ⟨(Takes.refl []).cons plain, Option.some.inj h ▸ dvd_zero 60⟩
  have hshift {sign : Char} {direction : Int} {rest : List Char} (plain : isPlain sign = true)
      (h : shift? direction rest = some n) : Takes isPlain (sign :: rest) [] ∧ 60 ∣ n :=
    (takes_of_shift? h).imp_left fun htakes => htakes.cons plain
  simp only [offset?] at h
  split at h
  · exact hzone (by decide) h
  · exact hzone (by decide) h
  · split at h
    case isTrue hplus =>
      refine hshift ?_ h
      rw [eq_of_beq hplus]
      decide
    case isFalse =>
      split at h
      case isTrue hminus =>
        refine hshift ?_ h
        rw [Bool.or_eq_true, beq_iff_eq, beq_iff_eq] at hminus
        rcases hminus with rfl | rfl <;> decide
      case isFalse => cases h
  · cases h

/-- The internet form is a moment in at least 19 characters and the offset that moves it. -/
theorem exists_of_internet? {t : Timestamp} (h : internet? cs = some t) :
    ∃ parts moment zone offset, ':' ∈ cs ∧ TakesPlain 19 cs zone ∧ offset? zone = some offset ∧
      Parts.timestamp? parts = some moment ∧ moment.minusSeconds offset = t := by
  rw [internet?] at h
  obtain ⟨⟨year, cs₁⟩, hyear, h⟩ := Option.bind_eq_some_iff.mp h
  obtain ⟨cs₂, hdash, h⟩ := Option.bind_eq_some_iff.mp h
  obtain ⟨⟨month, cs₃⟩, hmonth, h⟩ := Option.bind_eq_some_iff.mp h
  obtain ⟨cs₄, hdash', h⟩ := Option.bind_eq_some_iff.mp h
  obtain ⟨⟨day, cs₅⟩, hday, h⟩ := Option.bind_eq_some_iff.mp h
  obtain ⟨cs₆, hbetween, h⟩ := Option.bind_eq_some_iff.mp h
  obtain ⟨⟨hour, cs₇⟩, hhour, h⟩ := Option.bind_eq_some_iff.mp h
  obtain ⟨cs₈, hcolon, h⟩ := Option.bind_eq_some_iff.mp h
  obtain ⟨⟨minute, cs₉⟩, hminute, h⟩ := Option.bind_eq_some_iff.mp h
  obtain ⟨cs₁₀, hcolon', h⟩ := Option.bind_eq_some_iff.mp h
  obtain ⟨⟨second, cs₁₁⟩, hsecond, h⟩ := Option.bind_eq_some_iff.mp h
  -- date, separator, time and offset are taken one behind the other
  have hdate : TakesPlain 10 cs cs₅ :=
    (takesPlain_of_number? hyear).trans <| (takesPlain_of_literal? (by decide) hdash).trans <|
      (takesPlain_of_number? hmonth).trans <| (takesPlain_of_literal? (by decide) hdash').trans <|
        takesPlain_of_number? hday
  have hseparator : TakesPlain 1 cs₅ cs₆ := by
    simp only [Option.orElse_eq_orElse, Option.orElse_eq_or, Option.or_eq_some_iff] at hbetween
    rcases hbetween with hbetween | ⟨-, hbetween | ⟨-, hbetween⟩⟩
    all_goals exact takesPlain_of_literal? (by decide) hbetween
  have hstart : TakesPlain 13 cs (':' :: cs₈) := by
    rw [← eq_of_literal? hcolon]
    exact hdate.trans (hseparator.trans (takesPlain_of_number? hhour))
  have hclock : TakesPlain 6 (':' :: cs₈) cs₁₁ := by
    rw [← eq_of_literal? hcolon]
    exact (takesPlain_of_literal? (by decide) hcolon).trans <|
      (takesPlain_of_number? hminute).trans <| (takesPlain_of_literal? (by decide) hcolon').trans <|
        takesPlain_of_number? hsecond
  have hfraction : ∃ n zone, TakesPlain 0 cs₁₁ zone ∧
      (offset? zone).bind (fun offset =>
        ({ year := year, month, day, hour, minute, second, nanosecond := n : Parts }.timestamp?).map
          (·.minusSeconds offset)) = some t := by
    dsimp only at h
    split at h
    · obtain ⟨⟨n, zone⟩, hread, h⟩ := Option.bind_eq_some_iff.mp h
      have htakes : Takes isPlain _ zone :=
        (takes_of_nanosecond? hread).mono fun _ => isPlain_of_isDigit
      exact ⟨n, zone, ⟨htakes.cons (by decide), (htakes.cons (by decide)).length_le⟩, h⟩
    · obtain ⟨⟨n, zone⟩, hread, h⟩ := Option.bind_eq_some_iff.mp h
      obtain ⟨-, rfl⟩ := Prod.mk.inj (Option.some.inj hread)
      exact ⟨n, _, ⟨Takes.refl _, Nat.le_refl _⟩, h⟩
  obtain ⟨n, zone, hzone, h⟩ := hfraction
  obtain ⟨offset, hoffset, h⟩ := Option.bind_eq_some_iff.mp h
  obtain ⟨moment, hmoment, hmoved⟩ := Option.map_eq_some_iff.mp h
  exact ⟨_, moment, zone, offset, hstart.1.subset List.mem_cons_self,
    hstart.trans (hclock.trans hzone), hoffset, hmoment, hmoved⟩

/-- The internet form has a time of day, and none of its digits is of another script. -/
theorem isPlain_of_internet? {t : Timestamp} (h : internet? cs = some t) :
    ':' ∈ cs ∧ Takes isPlain cs [] := by
  obtain ⟨-, -, zone, offset, hcolon, hplain, hoffset, -⟩ := exists_of_internet? h
  exact ⟨hcolon, hplain.1.trans (takes_of_offset? hoffset).1⟩

end TableTalk.Calendar
