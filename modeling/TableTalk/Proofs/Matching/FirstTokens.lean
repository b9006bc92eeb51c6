import Mathlib.Data.List.Nodup
import TableTalk.Proofs.Listing
import TableTalk.Proofs.Matching.References

/-!
# The tokens that references come from

A question refers to every column that one of its tokens may refer to, and to each of them
once. Several tokens may refer to the same column; the first of them is the one whose term,
score and kind of match are kept, and the references stand in the order of these tokens.
-/

namespace TableTalk.Matching

variable {token : String} {columns : List String} {threshold : Float} {r : Reference}

/-- A token refers to the column that it matches if it has at least two characters and is no stop
word; a word of analysis only if it matches exactly. -/
structure Refers (columns : List String) (threshold : Float) (token : String)
    (found : ColumnMatch Float) : Prop where
  long : 2 ≤ Text.charCount token
  meaningful : isStopWord token = false
  matched : bestMatch token columns threshold = some found
  exact : token ∈ queryVocabulary → found.kind = .exact

theorem reference?_eq_some_iff_refers (h : IsThreshold threshold) :
    reference? columns threshold token = some r ↔
      r.term = token ∧ Refers columns threshold token ⟨r.column, r.score, r.kind⟩ := by
  rw [reference?_eq_some_iff h.within]
  constructor
  · rintro ⟨⟨hlong, hmeaningful⟩, found, hmatched, hexact, rfl⟩
    exact ⟨rfl, hlong, hmeaningful, hmatched, fun hmem =>
      hexact (List.contains_iff_mem.mpr hmem)⟩
  · rintro ⟨rfl, hlong, hmeaningful, hmatched, hexact⟩
    exact ⟨⟨hlong, hmeaningful⟩, _, hmatched, fun hmem =>
      hexact (List.contains_iff_mem.mp hmem), rfl⟩

/-- A reference is made by a token, and no token before it refers to the same column. -/
def IsFirstReference (columns : List String) (threshold : Float) (tokens : List String)
    (r : Reference) : Prop :=
  ∃ before after, tokens = before ++ r.term :: after ∧
    Refers columns threshold r.term ⟨r.column, r.score, r.kind⟩ ∧
    ∀ earlier ∈ before, ∀ other, Refers columns threshold earlier other → other.column ≠ r.column

theorem mem_references_iff (question : String) (h : IsThreshold threshold) :
    r ∈ references question columns threshold ↔
      IsFirstReference columns threshold (tokens question) r := by
  rw [references, Listing.mem_distinctBy_filterMap_iff]
  constructor
  · rintro ⟨before, token, after, hsplit, hfound, hfirst⟩
    obtain ⟨rfl, hrefers⟩ := (reference?_eq_some_iff_refers h).mp hfound
    refine ⟨before, after, hsplit, hrefers, fun earlier hearlier other hother => ?_⟩
    exact hfirst earlier hearlier ⟨other.column, earlier, other.score, other.kind⟩
      ((reference?_eq_some_iff_refers h).mpr ⟨rfl, hother⟩)
  · rintro ⟨before, after, hsplit, hrefers, hfirst⟩
    refine ⟨before, r.term, after, hsplit, (reference?_eq_some_iff_refers h).mpr ⟨rfl, hrefers⟩,
      fun earlier hearlier other hother => ?_⟩
    exact hfirst earlier hearlier _ ((reference?_eq_some_iff_refers h).mp hother).2

/-- The references of a question are to different columns. They are those that a token of the
question makes as the first one to refer to their column, and stand in the order of these tokens;
there is exactly one to every column that a token refers to. -/
theorem references_come_from_first_tokens (question : String) (columns : List String)
    (h : IsThreshold threshold) :
    let found := references question columns threshold
    (found.map Reference.column).Nodup ∧
      (∀ r, r ∈ found ↔ IsFirstReference columns threshold (tokens question) r) ∧
      (found.Pairwise fun r s =>
        (tokens question).idxOf r.term < (tokens question).idxOf s.term) ∧
      ∀ token ∈ tokens question, ∀ matched, Refers columns threshold token matched →
        ∃! r, r ∈ found ∧ r.column = matched.column := by
  intro found
  have hdistinct : (found.map Reference.column).Nodup := Listing.nodup_map_distinctBy
  refine ⟨hdistinct, fun r => mem_references_iff question h, ?_, ?_⟩
  · exact Listing.pairwise_idxOf_distinctBy_filterMap
      (fun token r hfound => ((reference?_eq_some_iff_refers h).mp hfound).1) (tokens question)
  · intro token htoken matched hrefers
    have hmade : reference? columns threshold token =
        some ⟨matched.column, token, matched.score, matched.kind⟩ :=
      (reference?_eq_some_iff_refers h).mpr ⟨rfl, hrefers⟩
    have hfound := List.mem_filterMap.mpr ⟨token, htoken, hmade⟩
    have hcolumn : matched.column ∈ found.map Reference.column :=
      Listing.mem_map_distinctBy.mpr (List.mem_map_of_mem (f := Reference.column) hfound)
    obtain ⟨r, hr, hsame⟩ := List.mem_map.mp hcolumn
    refine ⟨r, ⟨hr, hsame⟩, fun other ⟨hother, hothersame⟩ => ?_⟩
    exact List.inj_on_of_nodup_map hdistinct hother hr (hothersame.trans hsame.symm)

/-- Two columns are found twice each, and by the first token each. -/
theorem ratings_and_dates_referred_to_once :
    let question := "ratings by date and rating, total created"
    let columns := ["rating", "created_at", "total_sales"]
    let found := references question columns defaultThreshold
    IsThreshold defaultThreshold ∧
      found.map (fun r => (r.column, r.term, r.kind)) =
        [("rating", "ratings", .exact), ("created_at", "date", .synonym)] ∧
      (found.map Reference.column).Nodup ∧
      (∀ r ∈ found, IsFirstReference columns defaultThreshold (tokens question) r) ∧
      ∃! r, r ∈ found ∧ r.column = "created_at" := by
  intro question columns found
  have hthreshold : IsThreshold defaultThreshold := ⟨by decide +kernel, by decide +kernel⟩
  obtain ⟨hdistinct, hmem, -, hone⟩ :=
    references_come_from_first_tokens question columns hthreshold
  have hcreated : reference? columns defaultThreshold "created" =
      some ⟨"created_at", "created", Quantity.ratio 85 100, .contains⟩ := by decide +kernel
  have hrefers := ((reference?_eq_some_iff_refers hthreshold).mp hcreated).2
  exact ⟨hthreshold, by decide +kernel, hdistinct, fun r hr => (hmem r).mp hr,
    hone "created" (by decide +kernel) _ hrefers⟩

end TableTalk.Matching
