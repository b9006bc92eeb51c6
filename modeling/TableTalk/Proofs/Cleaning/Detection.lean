import TableTalk.Proofs.Cleaning.Cells
import TableTalk.Proofs.Decimal.Quotients

/-!
# The kind of a column after cleaning

A kind is detected if its recognizer accepts enough of a sample and no recognizer
in front of it does. A sample of the same size that it accepts no less of is of
the same kind again, unless a recognizer in front accepts more of it than before.

Cleaning converts or trims the cells of a sample. For most kinds nothing is
accepted anew by a recognizer in front. Whole numbers are the exception: ones and
zeros can make truth values of them.
-/

namespace TableTalk.Cleaning

/-- The first kind of some checks that is found to fit, or else the rest. -/
def firstKind (rest : ColumnKind) : List (ColumnKind × Bool) → ColumnKind
  | [] => rest
  | (kind, fits) :: checks => if fits then kind else firstKind rest checks

section First

variable {rest kind : ColumnKind} {fits : Bool} {checks before after : List (ColumnKind × Bool)}

theorem firstKind_ne (hrest : rest ≠ kind) (others : ∀ check ∈ checks, check.1 ≠ kind) :
    firstKind rest checks ≠ kind := by
  induction checks with
  | nil => exact hrest
  | cons check checks ih =>
    obtain ⟨other, fits⟩ := check
    rw [firstKind]
    split
    · exact others (other, fits) (by simp)
    · exact ih fun check hcheck => others check (by simp [hcheck])

/-- A kind is the first to fit only if it fits and none in front of it does. -/
theorem fits_of_firstKind (hrest : rest ≠ kind) (others : ∀ check ∈ before ++ after, check.1 ≠ kind)
    (h : firstKind rest (before ++ (kind, fits) :: after) = kind) :
    (∀ check ∈ before, check.2 = false) ∧ fits = true := by
  induction before with
  | nil =>
    refine ⟨by simp, ?_⟩
    rw [List.nil_append, firstKind] at h
    cases fits with
    | true => rfl
    | false => exact absurd h (firstKind_ne hrest others)
  | cons check before ih =>
    obtain ⟨other, early⟩ := check
    rw [List.cons_append, firstKind] at h
    cases early with
    | true => exact absurd h (others (other, true) (by simp))
    | false =>
      obtain ⟨hbefore, hfits⟩ := ih (fun check hcheck => others check (by simp [hcheck])) h
      exact ⟨by simpa using hbefore, hfits⟩

/-- Where a kind fits, it is the first to do so or one in front of it is. -/
theorem firstKind_of_fits (rest kind : ColumnKind) (before after : List (ColumnKind × Bool)) :
    firstKind rest (before ++ (kind, true) :: after) = kind ∨
      ∃ check ∈ before, check.2 = true ∧
        firstKind rest (before ++ (kind, true) :: after) = check.1 := by
  induction before with
  | nil => exact Or.inl rfl
  | cons check before ih =>
    obtain ⟨other, early⟩ := check
    rw [List.cons_append, firstKind]
    cases early with
    | true => exact Or.inr ⟨(other, true), by simp⟩
    | false =>
      rcases ih with hkind | ⟨check, hcheck, hfits, hkind⟩
      · exact Or.inl hkind
      · exact Or.inr ⟨check, by simp [hcheck], hfits, hkind⟩

end First

namespace Tally

/-- Whether a count exceeds a share of the sample. -/
def exceeds (tally : Tally) (count : ℕ) (least : Float) : Bool :=
  Decimal.isLess least (tally.ratio count)

theorem exceeds_mono {tally other : Tally} {count larger : ℕ} {least : Float}
    (positive : Decimal.isNegative least = false) (same : tally.sampled = other.sampled)
    (le : count ≤ larger) (within : larger ≤ other.sampled)
    (h : tally.exceeds count least = true) : other.exceeds larger least = true := by
  unfold exceeds ratio at h ⊢
  rw [same] at h
  split
  case isTrue hnone => rwa [if_pos hnone] at h
  case isFalse hsome =>
    rw [if_neg hsome] at h
    exact Decimal.isLess_share_mono positive le within h

/-- What a tally shows when no check fits. -/
def fallback (tally : Tally) : ColumnType :=
  let unique := tally.ratio tally.distinct
  if Decimal.isLess unique categoryRatio && categorySample ≤ tally.sampled then
    ⟨.category, 1.0 - unique⟩
  else
    let strongest := (tally.checks.map fun (_, count, _) => tally.ratio count).foldl larger 0.0
    ⟨.text, 1.0 - strongest⟩

theorem kind_fallback (tally : Tally) :
    tally.fallback.kind = .category ∨ tally.fallback.kind = .text := by
  rw [fallback]
  dsimp only
  split
  · exact Or.inl rfl
  · exact Or.inr rfl

theorem decide_eq (tally : Tally) :
    tally.decide =
      if tally.sampled = 0 then ⟨.null, 1.0⟩
      else
        match tally.checks.find? fun (_, count, least) =>
          Decimal.isLess least (tally.ratio count) with
        | some (kind, count, _) => ⟨kind, tally.ratio count⟩
        | none => tally.fallback := rfl

theorem kind_find? (tally : Tally) (rest : ColumnType) (checks : List (ColumnKind × ℕ × Float)) :
    (match checks.find? fun (_, count, least) => Decimal.isLess least (tally.ratio count) with
      | some (kind, count, _) => ⟨kind, tally.ratio count⟩
      | none => rest : ColumnType).kind =
      firstKind rest.kind
        (checks.map fun check => (check.1, tally.exceeds check.2.1 check.2.2)) := by
  induction checks with
  | nil => rfl
  | cons check checks ih =>
    rw [List.map_cons, firstKind, ← ih, List.find?_cons, exceeds]
    dsimp only
    cases Decimal.isLess check.2.2 (tally.ratio check.2.1) <;> rfl

end Tally

/-- A kind, the cells that it accepts, and the share of a sample that they have to exceed. -/
structure Recognizer where
  kind : ColumnKind
  accepts : Value → Bool
  least : Float

namespace Recognizer

def date : Recognizer := ⟨.date, countsAsDate, 0.8⟩

def email : Recognizer := ⟨.email, countsAsText looksLikeEmail, 0.8⟩

def url : Recognizer := ⟨.url, countsAsText looksLikeUrl, 0.8⟩

def boolean : Recognizer := ⟨.boolean, countsAsBoolean, 0.8⟩

def id : Recognizer := ⟨.id, countsAsText looksLikeId, 0.8⟩

def integer : Recognizer := ⟨.integer, countsAsInteger, 0.8⟩

def number : Recognizer := ⟨.number, countsAsNumeric, 0.7⟩

/-- All recognizers, in the order in which they are tried. -/
def all : List Recognizer := [date, email, url, boolean, id, integer, number]

/-- Whether enough of a sample is accepted. -/
def fits (recognizer : Recognizer) (sample : List Value) : Bool :=
  (Tally.ofSample sample).exceeds (sample.countP recognizer.accepts) recognizer.least

/-- Whether each kind fits a sample. -/
def verdicts (recognizers : List Recognizer) (sample : List Value) : List (ColumnKind × Bool) :=
  recognizers.map fun recognizer => (recognizer.kind, recognizer.fits sample)

theorem nodup_kinds : (all.map kind).Nodup := by decide

theorem kind_ne {recognizer : Recognizer} (h : recognizer ∈ all) :
    recognizer.kind ≠ .null ∧ recognizer.kind ≠ .category ∧ recognizer.kind ≠ .text := by
  have hkind : recognizer.kind ∈ all.map kind := List.mem_map_of_mem h
  revert hkind
  generalize recognizer.kind = found
  cases found <;> decide

theorem isNegative_least {recognizer : Recognizer} (h : recognizer ∈ all) :
    Decimal.isNegative recognizer.least = false := by
  simp only [all, List.mem_cons, List.not_mem_nil, or_false] at h
  rcases h with rfl | rfl | rfl | rfl | rfl | rfl | rfl <;> decide

/-- A sample of which no less is accepted fits no less. -/
theorem fits_mono {recognizer : Recognizer} {sample other : List Value} (h : recognizer ∈ all)
    (same : sample.length = other.length)
    (le : sample.countP recognizer.accepts ≤ other.countP recognizer.accepts)
    (fits : recognizer.fits sample = true) : recognizer.fits other = true :=
  Tally.exceeds_mono (isNegative_least h) same le List.countP_le_length fits

end Recognizer

open Recognizer (verdicts)

section Kinds

variable {sample other : List Value} {kind : ColumnKind}

theorem kind_detect_nil : (detect []).kind = .null := by
  rw [detect, Tally.decide, if_pos]
  rfl

/-- A sample that no recognizer fits is a category or text. -/
theorem exists_kind_detect (h : sample ≠ []) :
    ∃ rest, (rest = .category ∨ rest = .text) ∧
      (detect sample).kind = firstKind rest (verdicts Recognizer.all sample) := by
  have hsampled : (Tally.ofSample sample).sampled ≠ 0 := fun hzero =>
    h (List.length_eq_zero_iff.mp hzero)
  refine ⟨_, (Tally.ofSample sample).kind_fallback, ?_⟩
  rw [detect, Tally.decide_eq, if_neg hsampled, Tally.kind_find?]
  rfl

/-- Kinds that no recognizer has are not detected, except for those of the samples that no
recognizer fits. -/
theorem kind_detect_ne (hrest : kind ≠ .category ∧ kind ≠ .text)
    (others : kind ∉ Recognizer.all.map Recognizer.kind) (h : sample ≠ []) :
    (detect sample).kind ≠ kind := by
  obtain ⟨rest, hkind, hdetect⟩ := exists_kind_detect h
  rw [hdetect]
  refine firstKind_ne ?_ ?_
  · rintro rfl
    exact hkind.elim hrest.1 hrest.2
  · intro check hcheck heq
    obtain ⟨recognizer, hrecognizer, rfl⟩ := List.mem_map.mp hcheck
    exact others (heq ▸ List.mem_map_of_mem hrecognizer)

section Again

variable {recognizer : Recognizer} (before after : List Recognizer)
  (split : Recognizer.all = before ++ recognizer :: after)

include split

/-- The kind of a recognizer is detected only if it fits and nothing in front of it does. -/
theorem fits_of_kind_detect (h : (detect sample).kind = recognizer.kind) :
    sample ≠ [] ∧ (∀ earlier ∈ before, earlier.fits sample = false) ∧
      recognizer.fits sample = true := by
  have hmem : recognizer ∈ Recognizer.all := by simp [split]
  have hkinds := Recognizer.kind_ne hmem
  have hsample : sample ≠ [] := by
    rintro rfl
    exact hkinds.1 (h.symm.trans kind_detect_nil)
  obtain ⟨rest, hrest, hfirst⟩ := exists_kind_detect hsample
  rw [hfirst, split, verdicts, List.map_append, List.map_cons] at h
  have hne : rest ≠ recognizer.kind := by
    rcases hrest with rfl | rfl
    · exact hkinds.2.1.symm
    · exact hkinds.2.2.symm
  have hdistinct := Recognizer.nodup_kinds
  rw [split, List.map_append, List.map_cons, List.nodup_middle, List.nodup_cons,
    ← List.map_append] at hdistinct
  have hothers : ∀ check ∈ before.map (fun r => (r.kind, r.fits sample)) ++
      after.map (fun r => (r.kind, r.fits sample)), check.1 ≠ recognizer.kind := by
    intro check hcheck hkind
    rw [← List.map_append] at hcheck
    obtain ⟨found, hfound, rfl⟩ := List.mem_map.mp hcheck
    exact hdistinct.1 (hkind ▸ List.mem_map_of_mem hfound)
  obtain ⟨hbefore, hfits⟩ := fits_of_firstKind hne hothers h
  refine ⟨hsample, fun earlier hearlier => ?_, hfits⟩
  exact hbefore (earlier.kind, earlier.fits sample) (List.mem_map_of_mem hearlier)

/-- Where a recognizer fits, its kind is detected or that of one in front. -/
theorem kind_detect_of_fits (some : sample ≠ []) (fits : recognizer.fits sample = true) :
    (detect sample).kind = recognizer.kind ∨
      ∃ earlier ∈ before, earlier.fits sample = true ∧ (detect sample).kind = earlier.kind := by
  obtain ⟨rest, -, hfirst⟩ := exists_kind_detect some
  rw [hfirst, split, verdicts, List.map_append, List.map_cons, fits]
  rcases firstKind_of_fits rest recognizer.kind _ _ with hkind | ⟨check, hcheck, hfits, hkind⟩
  · exact Or.inl hkind
  · obtain ⟨earlier, hearlier, rfl⟩ := List.mem_map.mp hcheck
    exact Or.inr ⟨earlier, hearlier, hfits, hkind⟩

/-- A sample has its kind again, unless more of it is accepted by a recognizer in front. -/
theorem kind_detect_again (same : sample.length = other.length)
    (le : sample.countP recognizer.accepts ≤ other.countP recognizer.accepts)
    (h : (detect sample).kind = recognizer.kind) :
    (detect other).kind = recognizer.kind ∨
      ∃ earlier ∈ before, sample.countP earlier.accepts < other.countP earlier.accepts ∧
        (detect other).kind = earlier.kind := by
  obtain ⟨hsample, hbefore, hfits⟩ := fits_of_kind_detect before after split h
  have hother : other ≠ [] := by
    rintro rfl
    exact hsample (List.length_eq_zero_iff.mp same)
  have hagain : recognizer.fits other = true :=
    Recognizer.fits_mono (by simp [split]) same le hfits
  rcases kind_detect_of_fits before after split hother hagain with
    hkind | ⟨earlier, hearlier, hearly, hkind⟩
  · exact Or.inl hkind
  · refine Or.inr ⟨earlier, hearlier, not_le.mp fun hle => ?_, hkind⟩
    have hfitted : earlier.fits sample = true :=
      Recognizer.fits_mono (by simp [split, hearlier]) same.symm hle hearly
    rw [hbefore earlier hearlier] at hfitted
    cases hfitted

end Again

end Kinds

end TableTalk.Cleaning
