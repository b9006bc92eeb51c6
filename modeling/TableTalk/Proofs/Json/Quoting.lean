import Mathlib.Data.List.Basic
import TableTalk.Json.Reader
import TableTalk.Json.Writer

/-!
# Texts in documents

Each character of a quoted text is written as itself or as an escape, and the reader takes
just that much for one character. A text is therefore read back as it was, up to the quote
that closes it.
-/

namespace TableTalk.Json

namespace Reader

variable {c : Char} {rest : List Char}

theorem hexDigit?_hexChar {d : Nat} (h : d < 16) : hexDigit? (hexChar d) = some d := by
  have hdigits : ∀ d < 16, hexDigit? (hexChar d) = some d := by decide
  exact hdigits d h

/-- Control characters are escaped by their number. -/
theorem textPiece?_unicode (control : c.toNat < 0x20) :
    textPiece? ('\\' :: 'u' :: '0' :: '0' :: hexChar (c.toNat / 16) :: hexChar (c.toNat % 16) ::
      rest) = some (.char c, rest) := by
  have hunit : hexUnit? ('0' :: '0' :: hexChar (c.toNat / 16) :: hexChar (c.toNat % 16) :: rest) =
      some (c.toNat, rest) := by
    have hzero : hexDigit? '0' = some 0 := rfl
    have hnumber : ((0 * 16 + 0) * 16 + c.toNat / 16) * 16 + c.toNat % 16 = c.toNat := by omega
    simp only [hexUnit?, hzero, hexDigit?_hexChar (show c.toNat / 16 < 16 by omega),
      hexDigit?_hexChar (Nat.mod_lt c.toNat (by decide)), Option.bind_eq_bind, Option.bind_some,
      hnumber]
    rfl
  have hwhole : (0xD800 ≤ c.toNat && c.toNat ≤ 0xDFFF) = false := by
    rw [Bool.and_eq_false_iff, decide_eq_false_iff_not]
    omega
  rw [textPiece?, hunit]
  simp only [Option.bind_eq_bind, Option.bind_some, hwhole, Bool.false_eq_true, ↓reduceIte,
    Char.ofNat_toNat]
  rfl

/-- A character that is not escaped is read as itself. -/
theorem textPiece?_plain (quote : c ≠ '"') (backslash : c ≠ '\\') (visible : ¬ c.toNat < 0x20) :
    textPiece? (c :: rest) = some (.char c, rest) := by
  rw [textPiece?]
  · simp [visible, backslash]
  all_goals simp [quote, backslash]

/-- The reader undoes the escape of a character. -/
theorem textPiece?_escaped (c : Char) (rest : List Char) :
    textPiece? (escaped c ++ rest) = some (.char c, rest) := by
  by_cases hquote : c = '"'
  · subst hquote; rfl
  by_cases hbackslash : c = '\\'
  · subst hbackslash; rfl
  by_cases hnewline : c = '\n'
  · subst hnewline; rfl
  by_cases hreturn : c = '\r'
  · subst hreturn; rfl
  by_cases htab : c = '\t'
  · subst htab; rfl
  by_cases hbackspace : c = '\x08'
  · subst hbackspace; rfl
  by_cases hfeed : c = '\x0c'
  · subst hfeed; rfl
  by_cases hcontrol : c.toNat < 0x20
  · have hescaped : escaped c = ['\\', 'u', '0', '0', hexChar (c.toNat / 16),
        hexChar (c.toNat % 16)] := by
      simp [escaped, *]
    rw [hescaped]
    exact textPiece?_unicode hcontrol
  · have hescaped : escaped c = [c] := by simp [escaped, *]
    rw [hescaped]
    exact textPiece?_plain hquote hbackslash hcontrol

theorem escaped_length_pos (c : Char) : 0 < (escaped c).length := by
  unfold escaped
  split_ifs <;> simp

/-- The pieces of a quoted text are its characters, if there is fuel for each and the quote. -/
theorem textPieces?_escaped (cs rest : List Char) {fuel : Nat} (enough : cs.length < fuel) :
    textPieces? fuel (cs.flatMap escaped ++ '"' :: rest) = some (cs.map .char, rest) := by
  induction cs generalizing fuel with
  | nil =>
    obtain ⟨fuel, rfl⟩ := Nat.exists_eq_add_of_lt enough
    rfl
  | cons c cs ih =>
    obtain ⟨fuel, rfl⟩ : ∃ less, fuel = less + 1 := ⟨fuel - 1, by omega⟩
    rw [List.flatMap_cons, List.append_assoc, textPieces?, textPiece?_escaped]
    have hfuel : cs.length < fuel := Nat.lt_of_succ_lt_succ enough
    simp only [Option.bind_eq_bind, Option.bind_some, ih hfuel]
    rfl

theorem joinPieces?_chars (cs : List Char) : joinPieces? (cs.map .char) = some cs := by
  induction cs with
  | nil => rfl
  | cons c cs ih => rw [List.map_cons, joinPieces?, ih, Option.map_some]

theorem length_le_escaped (cs : List Char) : cs.length ≤ (cs.flatMap escaped).length := by
  induction cs with
  | nil => exact Nat.le_refl 0
  | cons c cs ih =>
    have hc := escaped_length_pos c
    rw [List.flatMap_cons, List.length_append, List.length_cons]
    omega

/-- Behind its opening quote a text is read up to the closing one. -/
theorem quoted?_escaped (cs rest : List Char) :
    quoted? (cs.flatMap escaped ++ '"' :: rest) = some ⟨some (String.ofList cs), rest⟩ := by
  have henough : cs.length < (cs.flatMap escaped ++ '"' :: rest).length := by
    have hlength := length_le_escaped cs
    rw [List.length_append, List.length_cons]
    omega
  rw [quoted?, textPieces?_escaped cs rest henough, Option.map_some]
  dsimp only
  rw [joinPieces?_chars, Option.map_some]

/-- A text is read back where it stands in a document, whatever is behind it. -/
theorem value?_quote (text : String) (rest : List Char) (fuel depth : Nat) :
    value? (fuel + 1) depth ((quote text).toList ++ rest) = some (.text text, rest) := by
  have hquote : (quote text).toList ++ rest =
      '"' :: (text.toList.flatMap escaped ++ '"' :: rest) := by
    rw [quote, String.toList_ofList, List.cons_append, List.append_assoc]
    rfl
  rw [hquote, value?]
  show scalar? ('"' :: (text.toList.flatMap escaped ++ '"' :: rest)) = some (.text text, rest)
  rw [scalar?, quoted?_escaped, Option.map_some, String.ofList_toList]

end Reader

/-- The compact form of a text is the text again for the reader. -/
theorem read?_compact_text (text : String) : read? (compact (.text text)) = some (.text text) := by
  rw [read?, compact]
  have hvalue := Reader.value?_quote text [] (2 * (quote text).toList.length + 1) 0
  rw [List.append_nil] at hvalue
  simp only [hvalue, Option.bind_eq_bind, Option.bind_some]
  rfl

end TableTalk.Json
