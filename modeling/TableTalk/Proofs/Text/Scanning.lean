import Mathlib.Computability.Language
import Mathlib.Data.List.TakeWhile
import TableTalk.Text.Scanner

/-!
# The languages of scanners

A scanner that does not look back reads the texts of a language: from a cursor it gets
exactly to the places behind those texts. Reading one pattern after the other, one of
two patterns, or a pattern or nothing are the product, the sum and the sum with the empty
text. A pattern fits a text just if the text is in the language.
-/

namespace TableTalk.Text.Scanner

variable {α β : Type} {p : Char → Bool} {first second : Language Char}

/-- The texts that a scanner reads, wherever it stands. -/
def Reads (scanner : Scanner α) (language : Language Char) : Prop :=
  ∀ cursor rest, (∃ value next, (value, next) ∈ scanner cursor ∧ next.after = rest) ↔
    ∃ part ∈ language, cursor.after = part ++ rest

/-- The texts of some lengths over a class of characters. -/
def runs (lengths : Nat → Prop) (p : Char → Bool) : Language Char :=
  {part | lengths part.length ∧ ∀ c ∈ part, p c = true}

theorem mem_runs {lengths : Nat → Prop} {part : List Char} :
    part ∈ runs lengths p ↔ lengths part.length ∧ ∀ c ∈ part, p c = true := Iff.rfl

/-- The spellings of some forms. -/
def spelled {φ : Type} (chars : φ → List Char) : Language Char := {part | ∃ form, chars form = part}

section Spelled

variable {φ ψ : Type} {chars : φ → List Char} {others : ψ → List Char}

theorem mem_spelled {part : List Char} : part ∈ spelled chars ↔ ∃ form, chars form = part := Iff.rfl

theorem runs_eq_spelled (lengths : Nat → Prop) (p : Char → Bool) :
    runs lengths p = spelled fun part : {part // part ∈ runs lengths p} => part.val := by
  ext part
  simp [mem_spelled]

theorem spelled_mul : spelled chars * spelled others =
    spelled fun forms : φ × ψ => chars forms.1 ++ others forms.2 := by
  ext part
  simp [mem_spelled, Language.mem_mul]

theorem spelled_add : spelled chars + spelled others = spelled (Sum.elim chars others) := by
  ext part
  simp [mem_spelled, Language.mem_add]

theorem spelled_add_one :
    spelled chars + 1 = spelled fun form : Option φ => form.elim [] chars := by
  ext part
  rw [Language.mem_add, Language.mem_one, mem_spelled, mem_spelled, Option.exists, or_comm]
  exact or_congr_left eq_comm

end Spelled

/-- Forms can be laid out in another way, as long as none is lost. -/
theorem Reads.layout {φ ψ : Type} {scanner : Scanner α} {chars : φ → List Char}
    {others : ψ → List Char} (h : Reads scanner (spelled chars)) (layout : φ → ψ)
    (all : layout.Surjective) (same : ∀ form, others (layout form) = chars form) :
    Reads scanner (spelled others) := by
  have heq : spelled chars = spelled others := by
    ext part
    simp only [mem_spelled, all.exists, same]
  exact heq ▸ h

theorem fits_iff {scanner : Scanner α} {language : Language Char} (h : Reads scanner language)
    (text : String) : scanner.fits text = true ↔ text.toList ∈ language := by
  have hcursor := h ⟨[], text.toList⟩ []
  simp only [List.append_nil, exists_eq_right'] at hcursor
  rw [fits, List.any_eq_true, ← hcursor]
  simp [List.isEmpty_iff]

theorem fits_oneOf (scanners : List (Scanner α)) (text : String) :
    (oneOf scanners).fits text = scanners.any (·.fits text) := by
  simp only [fits, oneOf, List.any_flatMap]

theorem reads_pure (value : α) : Reads (pure value : Scanner α) 1 := by
  intro cursor rest
  change (∃ found next, (found, next) ∈ [(value, cursor)] ∧ _) ↔ _
  simp [Language.mem_one]

theorem mem_bind {scanner : Scanner α} {next : α → Scanner β} {cursor : Cursor}
    {result : β × Cursor} : result ∈ (scanner >>= next) cursor ↔
      ∃ value middle, (value, middle) ∈ scanner cursor ∧ result ∈ next value middle := by
  change result ∈ (scanner cursor).flatMap _ ↔ _
  simp [List.mem_flatMap]

/-- What is read next must not depend on what was read. -/
theorem Reads.bind {scanner : Scanner α} {next : α → Scanner β} (h : Reads scanner first)
    (hnext : ∀ value, Reads (next value) second) :
    Reads (scanner >>= next) (first * second) := by
  intro cursor rest
  simp only [mem_bind, Language.mem_mul]
  constructor
  · rintro ⟨found, last, ⟨value, middle, hmiddle, hlast⟩, rfl⟩
    obtain ⟨head, hhead, hcursor⟩ := (h cursor middle.after).mp ⟨value, middle, hmiddle, rfl⟩
    obtain ⟨tail, htail, hafter⟩ := (hnext value middle last.after).mp ⟨found, last, hlast, rfl⟩
    refine ⟨head ++ tail, ⟨head, hhead, tail, htail, rfl⟩, ?_⟩
    rw [hcursor, hafter, List.append_assoc]
  · rintro ⟨part, ⟨head, hhead, tail, htail, rfl⟩, hcursor⟩
    rw [List.append_assoc] at hcursor
    obtain ⟨value, middle, hmiddle, hafter⟩ := (h cursor (tail ++ rest)).mpr ⟨head, hhead, hcursor⟩
    obtain ⟨found, last, hlast, hrest⟩ := (hnext value middle rest).mpr ⟨tail, htail, hafter⟩
    exact ⟨found, last, ⟨value, middle, hmiddle, hlast⟩, hrest⟩

theorem Reads.either {scanner other : Scanner α} (h : Reads scanner first)
    (hother : Reads other second) : Reads (scanner.either other) (first + second) := by
  intro cursor rest
  simp only [Scanner.either, List.mem_append, Language.mem_add, or_and_right, exists_or]
  exact or_congr (h cursor rest) (hother cursor rest)

theorem Reads.optional {scanner : Scanner Unit} (h : Reads scanner first) :
    Reads (Scanner.optional scanner) (first + 1) :=
  h.either (reads_pure ())

theorem mem_one {cursor next : Cursor} {c : Char} :
    (c, next) ∈ one p cursor ↔
      ∃ after, cursor.after = c :: after ∧ p c = true ∧ next = ⟨c :: cursor.before, after⟩ := by
  obtain ⟨before, after⟩ := cursor
  cases after with
  | nil => simp [one]
  | cons d after =>
    by_cases hd : p d = true
    · simp only [one, hd, ↓reduceIte, List.mem_singleton, Prod.mk.injEq, List.cons.injEq]
      constructor
      · rintro ⟨rfl, rfl⟩
        exact ⟨after, ⟨rfl, rfl⟩, hd, rfl⟩
      · rintro ⟨_, ⟨rfl, rfl⟩, -, rfl⟩
        exact ⟨rfl, rfl⟩
    · simp only [one, hd, Bool.false_eq_true, ↓reduceIte, List.not_mem_nil, false_iff]
      rintro ⟨_, heq, hc, -⟩
      obtain ⟨rfl, -⟩ := List.cons.inj heq
      exact hd hc

theorem reads_one (p : Char → Bool) : Reads (one p) (runs (· = 1) p) := by
  intro cursor rest
  simp only [mem_one, mem_runs, List.length_eq_one_iff]
  constructor
  · rintro ⟨c, _, ⟨after, hafter, hc, rfl⟩, rfl⟩
    exact ⟨[c], ⟨⟨c, rfl⟩, by simpa using hc⟩, hafter⟩
  · rintro ⟨_, ⟨⟨c, rfl⟩, hc⟩, hafter⟩
    exact ⟨c, _, ⟨rest, hafter, hc c (by simp), rfl⟩, rfl⟩

theorem mem_between {least most : Nat} {cursor next : Cursor} {part : List Char} :
    (part, next) ∈ between least most p cursor ↔
      part ∈ runs (fun n => least ≤ n ∧ n ≤ most) p ∧
        ∃ after, cursor.after = part ++ after ∧ next = cursor.advance part.length := by
  have hprefix : (cursor.after.take most).takeWhile p <+: cursor.after.take most :=
    List.takeWhile_prefix p
  simp only [between, List.mem_map, List.mem_filter, List.mem_reverse, List.mem_range,
    decide_eq_true_eq, Prod.mk.injEq]
  constructor
  · rintro ⟨n, ⟨hlt, hleast⟩, rfl, rfl⟩
    have hlength : (((cursor.after.take most).takeWhile p).take n).length = n := by
      rw [List.length_take]
      omega
    have hmost := hprefix.length_le
    rw [List.length_take] at hmost
    refine ⟨⟨by rw [hlength]; omega, fun c hc => ?_⟩, ?_⟩
    · exact List.mem_takeWhile_imp (List.mem_of_mem_take hc)
    · obtain ⟨after, hafter⟩ := ((List.take_prefix n _).trans hprefix).trans (List.take_prefix most _)
      exact ⟨after, hafter.symm, by rw [hlength]⟩
  · rintro ⟨⟨⟨hleast, hmost⟩, hall⟩, after, hafter, rfl⟩
    have hrun : (cursor.after.take most).takeWhile p =
        part ++ (after.take (most - part.length)).takeWhile p := by
      rw [hafter, List.take_append, List.take_of_length_le hmost,
        List.takeWhile_append_of_pos hall]
    -- the part is one of the prefixes that are tried, since the longest run extends it
    refine ⟨part.length, ⟨?_, hleast⟩, ?_, rfl⟩
    · rw [hrun, List.length_append]
      omega
    · rw [hrun, List.take_left]

theorem reads_between (least most : Nat) (p : Char → Bool) :
    Reads (between least most p) (runs (fun n => least ≤ n ∧ n ≤ most) p) := by
  intro cursor rest
  simp only [mem_between]
  constructor
  · rintro ⟨part, _, ⟨hpart, after, hafter, rfl⟩, rfl⟩
    exact ⟨part, hpart, by rw [Cursor.advance, hafter, List.drop_left]⟩
  · rintro ⟨part, hpart, hafter⟩
    exact ⟨part, _, ⟨hpart, rest, hafter, rfl⟩, by rw [Cursor.advance, hafter, List.drop_left]⟩

/-- A run of no bounded length is as long as what is there. -/
theorem reads_run (least : Nat) (p : Char → Bool) :
    Reads (fun cursor => between least cursor.after.length p cursor) (runs (least ≤ ·) p) := by
  intro cursor rest
  refine (reads_between least cursor.after.length p cursor rest).trans ⟨?_, ?_⟩
  · rintro ⟨part, ⟨⟨hleast, -⟩, hall⟩, hafter⟩
    exact ⟨part, ⟨hleast, hall⟩, hafter⟩
  · rintro ⟨part, ⟨hleast, hall⟩, hafter⟩
    refine ⟨part, ⟨⟨hleast, ?_⟩, hall⟩, hafter⟩
    rw [hafter, List.length_append]
    omega

theorem reads_some (p : Char → Bool) : Reads (some p) (runs (1 ≤ ·) p) :=
  reads_run 1 p

theorem reads_many (p : Char → Bool) : Reads (many p) (runs (0 ≤ ·) p) :=
  reads_run 0 p

/-- What is found in a text was read at some place of it. -/
theorem exists_mem_of_mem_findAll {scanner : Scanner α} {source : String} {found : Found α}
    (h : found ∈ findAll scanner source) : ∃ cursor rest, (found.value, rest) ∈ scanner cursor := by
  rw [findAll] at h
  generalize ([] : List Char) = before, 0 = skip, source.toList = cs at h
  induction cs generalizing before skip with
  | nil =>
    cases skip <;> cases h
  | cons c cs ih =>
    cases skip with
    | succ skip => exact ih _ _ h
    | zero =>
      rw [findAllAfter] at h
      split at h
      case h_1 read hread =>
        rcases List.mem_cons.mp h with rfl | h
        · obtain ⟨⟨value, rest⟩, hhead, rfl⟩ := Option.map_eq_some_iff.mp hread
          exact ⟨_, rest, List.mem_of_head? hhead⟩
        · exact ih _ _ h
      case h_2 => exact ih _ _ h

section Yields

/-- Whatever a scanner reads has a property. -/
def Yields (scanner : Scanner α) (property : α → Prop) : Prop :=
  ∀ cursor value next, (value, next) ∈ scanner cursor → property value

variable {scanner other : Scanner α} {next : α → Scanner β} {property : α → Prop}
  {result : β → Prop}

theorem yields_pure {value : α} (h : property value) : Yields (pure value) property := by
  intro cursor found last hmem
  obtain ⟨rfl, -⟩ := Prod.mk.inj (List.mem_singleton.mp hmem)
  exact h

theorem Yields.bind (h : Yields scanner property)
    (hnext : ∀ value, property value → Yields (next value) result) :
    Yields (scanner >>= next) result := by
  intro cursor found last hmem
  obtain ⟨value, middle, hvalue, hfound⟩ := mem_bind.mp hmem
  exact hnext value (h cursor value middle hvalue) middle found last hfound

/-- What is read first may not matter. -/
theorem Yields.skip (hnext : ∀ value, Yields (next value) result) :
    Yields (scanner >>= next) result :=
  @Yields.bind _ _ _ _ (fun _ => True) _ (fun _ _ _ _ => trivial) fun value _ => hnext value

theorem Yields.either (h : Yields scanner property) (hother : Yields other property) :
    Yields (scanner.either other) property := by
  intro cursor value last hmem
  rcases List.mem_append.mp hmem with hmem | hmem
  · exact h cursor value last hmem
  · exact hother cursor value last hmem

theorem yields_text (expected : String) : Yields (text expected) (· = expected) := by
  intro cursor value last hmem
  rw [text] at hmem
  split at hmem
  · exact (Prod.mk.inj (List.mem_singleton.mp hmem)).1
  · cases hmem

theorem yields_some (p : Char → Bool) : Yields (some p) (· ∈ runs (1 ≤ ·) p) := by
  intro cursor part last hmem
  obtain ⟨⟨⟨hlength, -⟩, hall⟩, -⟩ := mem_between.mp hmem
  exact ⟨hlength, hall⟩

theorem Yields.of_mem_findAll (h : Yields scanner property) {source : String} {found : Found α}
    (hmem : found ∈ findAll scanner source) : property found.value := by
  obtain ⟨cursor, last, hfound⟩ := exists_mem_of_mem_findAll hmem
  exact h cursor found.value last hfound

end Yields

end TableTalk.Text.Scanner
