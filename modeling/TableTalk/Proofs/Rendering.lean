import TableTalk.Proofs.Calendar.Shapes
import TableTalk.Proofs.SharedGroups
import TableTalk.Proofs.Text.Trimming
import TableTalk.Rendering

/-!
# Columns of printed tables

Cells are filled up to the width of their column and lines are cut off behind their last visible
character, so a line filled up with spaces again has each column at its place. What stands there is
the cell, apart from blanks at its end, of which the line may have lost some. Line breaks in cells
are gone, and so each row takes one line. Those in the headings are not gone, and they are
what breaks a table into more lines.
-/

namespace TableTalk.Rendering

open Text (charCount dropEndWhile isBlank)

section Blanks

variable {shown text : List Char}

/-- What is shown is the text, with blanks at its end perhaps shown as spaces. -/
def Shows (shown text : List Char) : Prop :=
  ∃ front tail, text = front ++ tail ∧ (∀ c ∈ tail, isBlank c = true) ∧
    shown = front ++ List.replicate tail.length ' '

theorem Shows.length_eq (h : Shows shown text) : shown.length = text.length := by
  obtain ⟨front, tail, rfl, -, rfl⟩ := h
  simp

theorem Shows.drop (h : Shows shown text) (n : ℕ) : Shows (shown.drop n) (text.drop n) := by
  obtain ⟨front, tail, rfl, blank, rfl⟩ := h
  refine ⟨front.drop n, tail.drop (n - front.length), List.drop_append,
    fun c hc => blank c (List.mem_of_mem_drop hc), ?_⟩
  rw [List.drop_append, List.drop_replicate, List.length_drop]

theorem Shows.take (h : Shows shown text) (n : ℕ) : Shows (shown.take n) (text.take n) := by
  obtain ⟨front, tail, rfl, blank, rfl⟩ := h
  refine ⟨front.take n, tail.take (n - front.length), List.take_append,
    fun c hc => blank c (List.mem_of_mem_take hc), ?_⟩
  rw [List.take_append, List.take_replicate, List.length_take]

theorem Shows.eq_of_spaces {n : ℕ} (h : Shows shown (List.replicate n ' ')) :
    shown = List.replicate n ' ' := by
  obtain ⟨front, tail, htext, -, rfl⟩ := h
  obtain ⟨hlength, hfront, -⟩ := List.replicate_eq_append_iff.mp htext
  rw [hfront, List.replicate_append_replicate, hlength]

/-- A text that ends with a visible character is shown as it is. -/
theorem Shows.eq_of_visible (h : Shows shown text)
    (visible : ∀ c ∈ text.getLast?, isBlank c = false) : shown = text := by
  obtain ⟨front, tail, rfl, blank, rfl⟩ := h
  rcases tail.eq_nil_or_concat with rfl | ⟨tail, c, rfl⟩
  · rfl
  · have hblank : isBlank c = true := blank c (by simp)
    have hvisible : isBlank c = false := visible c (by simp)
    exact absurd hblank (by simp [hvisible])

/-- A line without the blanks at its end, filled up with spaces, shows the whole line. -/
theorem shows_dropEndWhile (text : List Char) :
    Shows ((dropEndWhile isBlank text).rightpad text.length ' ') text := by
  have hsplit : dropEndWhile isBlank text ++ text.rtakeWhile isBlank = text :=
    List.rdropWhile_append_rtakeWhile
  refine ⟨dropEndWhile isBlank text, text.rtakeWhile isBlank, hsplit.symm,
    fun c => List.mem_rtakeWhile_imp, ?_⟩
  have hlength : text.length - (dropEndWhile isBlank text).length =
      (text.rtakeWhile isBlank).length := by
    have hsum := congrArg List.length hsplit
    rw [List.length_append] at hsum
    omega
  rw [List.rightpad, hlength]

end Blanks

section Columns

/-- Columns side by side with gaps between them. -/
def joined (columns : List (List Char)) : List Char :=
  [' ', ' '].intercalate columns

/-- The widths of the columns, and two for each gap between them. -/
def fullWidth (widths : List ℕ) : ℕ :=
  widths.sum + 2 * (widths.length - 1)

/-- The widths of the columns in front of one, and two for each gap. -/
def start (widths : List ℕ) (k : ℕ) : ℕ :=
  (widths.take k).sum + 2 * k

/-- What a line, filled up with spaces, has at the place of a column. -/
def column (widths : List ℕ) (line : List Char) (k : ℕ) : List Char :=
  ((line.rightpad (fullWidth widths) ' ').drop (start widths k)).take (widths.getD k 0)

theorem length_joined (columns : List (List Char)) :
    (joined columns).length = fullWidth (columns.map List.length) := by
  induction columns with
  | nil => rfl
  | cons first columns ih =>
    cases columns with
    | nil => simp [joined, fullWidth]
    | cons next columns =>
      rw [joined, List.intercalate_cons_cons, List.length_append, List.length_append]
      simp only [joined, fullWidth, List.map_cons, List.sum_cons, List.length_cons,
        List.length_map, List.length_nil] at ih ⊢
      omega

/-- Columns stand where the widths in front of them say. -/
theorem take_drop_joined {columns : List (List Char)} {k : ℕ} {text : List Char}
    (h : columns[k]? = some text) :
    ((joined columns).drop (start (columns.map List.length) k)).take text.length = text := by
  induction columns generalizing k with
  | nil => simp at h
  | cons first columns ih =>
    cases k with
    | zero =>
      obtain rfl : first = text := by simpa using h
      cases columns <;> simp [joined, start, List.intercalate_cons_cons]
    | succ k =>
      rw [List.getElem?_cons_succ] at h
      cases columns with
      | nil => simp at h
      | cons next columns =>
        have hstart : start ((first :: next :: columns).map List.length) (k + 1) =
            (first ++ [' ', ' ']).length + start ((next :: columns).map List.length) k := by
          simp only [start, List.map_cons, List.take_succ_cons, List.sum_cons, List.length_append,
            List.length_cons, List.length_nil]
          omega
        have hjoined : joined (first :: next :: columns) =
            (first ++ [' ', ' ']) ++ joined (next :: columns) := by
          simp [joined, List.intercalate_cons_cons]
        rw [hstart, hjoined, List.drop_length_add_append]
        exact ih h

end Columns

section Lines

theorem toList_padded (cell : Cell) (width : ℕ) : (cell.padded width).toList =
    if cell.flushRight then cell.text.toList.leftpad width ' '
    else cell.text.toList.rightpad width ' ' := by
  rw [Cell.padded]
  split
  · rw [String.toList_append, spaces, String.toList_ofList, charCount, List.leftpad]
  · rw [String.toList_append, spaces, String.toList_ofList, charCount, List.rightpad]

theorem length_padded {cell : Cell} {width : ℕ} (fits : charCount cell.text ≤ width) :
    (cell.padded width).toList.length = width := by
  rw [charCount] at fits
  rw [toList_padded]
  split <;> simp [fits]

theorem charCount_le_width {heading : String} {cells : List Cell} :
    charCount heading ≤ width heading cells ∧
      ∀ cell ∈ cells, charCount cell.text ≤ width heading cells := by
  unfold width
  generalize charCount heading = least
  induction cells generalizing least with
  | nil => exact ⟨le_rfl, nofun⟩
  | cons cell cells ih =>
    obtain ⟨hleast, hcells⟩ := ih (max least (charCount cell.text))
    rw [List.map_cons, List.foldl_cons]
    refine ⟨(le_max_left _ _).trans hleast, ?_⟩
    rintro other (_ | ⟨_, hother⟩)
    · exact (le_max_right _ _).trans hleast
    · exact hcells other hother

variable (rows : Dataset)

/-- The columns of all rows, each once. -/
def headings : List String :=
  (rows.flatMap Row.columns).eraseDups

/-- The width of a column: that of the widest of its heading and its cells. -/
def widthIn (heading : String) : ℕ :=
  width heading (rows.map fun row => Cell.ofValue (row.value heading))

def widths : List ℕ :=
  (headings rows).map (widthIn rows)

/-- The columns of a line with a cell for every heading. -/
def cellTexts (cells : String → Cell) : List (List Char) :=
  (headings rows).map fun heading => ((cells heading).padded (widthIn rows heading)).toList

/-- A line as it is printed, without its newline. -/
def lineOf (cells : String → Cell) : List Char :=
  dropEndWhile isBlank (joined (cellTexts rows cells))

theorem toList_line (cells : String → Cell) :
    (line ((headings rows).map cells) (widths rows)).toList = lineOf rows cells ++ ['\n'] := by
  rw [line, String.toList_append, Text.trimEnd, String.toList_ofList, String.toList_intercalate,
    widths, List.zipWith_map, List.zipWith_self, List.map_map]
  rfl

variable {rows} {cells : String → Cell}

theorem map_length_cellTexts
    (fits : ∀ heading ∈ headings rows, charCount (cells heading).text ≤ widthIn rows heading) :
    (cellTexts rows cells).map List.length = widths rows := by
  rw [cellTexts, List.map_map]
  exact List.map_congr_left fun heading hmem => length_padded (fits heading hmem)

theorem length_lineOf_le
    (fits : ∀ heading ∈ headings rows, charCount (cells heading).text ≤ widthIn rows heading) :
    (lineOf rows cells).length ≤ fullWidth (widths rows) := by
  rw [← map_length_cellTexts fits, ← length_joined]
  exact (List.rdropWhile_prefix isBlank _).length_le

/-- In each column a line shows its cell, filled up to the width of the column. -/
theorem shows_lineOf
    (fits : ∀ heading ∈ headings rows, charCount (cells heading).text ≤ widthIn rows heading)
    {k : ℕ} {heading : String} (h : (headings rows)[k]? = some heading) :
    Shows (column (widths rows) (lineOf rows cells) k)
      ((cells heading).padded (widthIn rows heading)).toList := by
  have hlengths := map_length_cellTexts fits
  have hwidth : (widths rows).getD k 0 = widthIn rows heading := by simp [widths, h]
  have hcell : (cellTexts rows cells)[k]? =
      some ((cells heading).padded (widthIn rows heading)).toList := by simp [cellTexts, h]
  have hplace := take_drop_joined hcell
  have hline := shows_dropEndWhile (joined (cellTexts rows cells))
  rw [length_joined, hlengths] at hline
  rw [hlengths, length_padded (fits heading (List.mem_of_getElem? h))] at hplace
  have hslice := (hline.drop (start (widths rows) k)).take (widthIn rows heading)
  rw [hplace] at hslice
  rw [column, hwidth]
  exact hslice

end Lines

section Values

/-- How a value stands in a column: numbers at its right edge, all others at its left edge, and
null is blank. -/
def Stands (value : Value) (width : ℕ) (shown : List Char) : Prop :=
  if value.isNull then shown = List.replicate width ' '
  else if value.isNumeric then shown = value.display.toList.leftpad width ' '
  else Shows shown ((value.display.toList.map onOneLine).rightpad width ' ')

theorem onOneLine_of_not_isBlank {c : Char} (h : isBlank c = false) : onOneLine c = c := by
  have hother (d : Char) (blank : isBlank d = true) : (c == d) = false :=
    beq_eq_false_iff_ne.mpr fun he => by simp [he, blank] at h
  simp [onOneLine, hother '\n' rfl, hother '\r' rfl, hother '\t' rfl]

theorem not_isBlank_of_mem_unitsText {n : ℕ} {c : Char} (h : c ∈ Decimal.unitsText n) :
    isBlank c = false := by
  have hfraction (h : c ∈ Decimal.fractionText n) : c = '.' ∨ c.isDigit = true := by
    unfold Decimal.fractionText at h
    split at h
    · cases h
    · refine (List.mem_cons.mp h).imp_right fun hplace => ?_
      exact Decimal.isDigit_of_mem_places ((List.rdropWhile_prefix _ _).mem hplace)
  rcases List.mem_append.mp h with h | h
  · exact Calendar.not_isBlank_of_isDigit (Decimal.isDigit_of_mem_digitText h)
  · rcases hfraction h with rfl | hdigit
    · rfl
    · exact Calendar.not_isBlank_of_isDigit hdigit

/-- The display of a number is not empty and has no blanks. -/
theorem display_visible {value : Value} (number : value.isNumeric = true) :
    value.display.toList ≠ [] ∧ ∀ c ∈ value.display.toList, isBlank c = false := by
  rw [Value.display_of_isNumeric number, Decimal.signedText, String.toList_ofList]
  have hunits := @not_isBlank_of_mem_unitsText (Decimal.tenThousandths value.amount)
  split
  · refine ⟨List.cons_ne_nil _ _, fun c hc => ?_⟩
    rcases List.mem_cons.mp hc with rfl | hc
    · rfl
    · exact hunits hc
  · exact ⟨List.append_ne_nil_of_left_ne_nil Nat.toDigits_ne_nil _, fun c => hunits⟩

theorem stands_of_shows {value : Value} {width : ℕ} {shown : List Char}
    (h : Shows shown ((Cell.ofValue value).padded width).toList) : Stands value width shown := by
  rw [toList_padded] at h
  unfold Stands
  split
  case isTrue null =>
    have hvalue : value = .null := by cases value <;> first | rfl | cases null
    subst hvalue
    exact Shows.eq_of_spaces h
  case isFalse null =>
    have htext : (Cell.ofValue value).text.toList = value.display.toList.map onOneLine := by
      rw [Cell.ofValue, if_neg null, String.toList_ofList]
    rw [htext, Cell.ofValue] at h
    split
    case isTrue number =>
      obtain ⟨some, visible⟩ := display_visible number
      have hplain : value.display.toList.map onOneLine = value.display.toList :=
        (List.map_congr_left fun c hc => onOneLine_of_not_isBlank (visible c hc)).trans
          (List.map_id _)
      rw [if_pos number, hplain] at h
      refine h.eq_of_visible fun c hc => visible c (List.mem_of_getLast? ?_)
      rwa [List.leftpad, List.getLast?_append_of_ne_nil _ some] at hc
    case isFalse text =>
      rwa [if_neg text] at h

end Values

section Tables

variable (rows : Dataset)

def headingCell (heading : String) : Cell :=
  ⟨heading, false⟩

def dashCell (heading : String) : Cell :=
  ⟨String.ofList (List.replicate (widthIn rows heading) '-'), false⟩

def rowCell (row : Row) (heading : String) : Cell :=
  Cell.ofValue (row.value heading)

/-- The lines of a text, each with its newline. -/
def ended (lines : List (List Char)) : List Char :=
  lines.flatMap (· ++ ['\n'])

theorem toList_render : (render rows).toList =
    ended (lineOf rows headingCell :: lineOf rows (dashCell rows) ::
      rows.map fun row => lineOf rows (rowCell row)) := by
  have hrender : render rows = String.join
      (line ((headings rows).map headingCell) (widths rows) ::
        line ((widths rows).map fun w => ⟨String.ofList (List.replicate w '-'), false⟩)
          (widths rows) ::
        (rows.map fun row => (headings rows).map (rowCell row)).map fun cells =>
          line cells (widths rows)) := rfl
  have hdashes : (widths rows).map (fun w => ⟨String.ofList (List.replicate w '-'), false⟩) =
      (headings rows).map (dashCell rows) := List.map_map
  rw [hrender, hdashes, List.map_map, String.toList_join, ended, List.flatMap_cons,
    List.flatMap_cons, List.flatMap_cons, List.flatMap_cons, toList_line, toList_line,
    List.flatMap_map, List.flatMap_map]
  simp only [Function.comp_apply, toList_line]

variable {rows}

theorem headingCell_fits (heading : String) :
    charCount (headingCell heading).text ≤ widthIn rows heading :=
  charCount_le_width.1

theorem dashCell_fits (heading : String) :
    charCount (dashCell rows heading).text ≤ widthIn rows heading := by
  simp [dashCell, charCount]

theorem rowCell_fits {row : Row} (hrow : row ∈ rows) (heading : String) :
    charCount (rowCell row heading).text ≤ widthIn rows heading :=
  charCount_le_width.2 _ (List.mem_map_of_mem (f := fun row => rowCell row heading) hrow)

/-- A line for the headings, a line of dashes and lines for the rows, none of them longer than all
columns with their gaps, show everything in the column where it belongs. -/
structure IsAligned (rows : Dataset) (header dashes : List Char) (body : List (List Char)) :
    Prop where
  within : ∀ line ∈ header :: dashes :: body, line.length ≤ fullWidth (widths rows)
  header (k : ℕ) (heading : String) : (headings rows)[k]? = some heading →
    Shows (column (widths rows) header k) (heading.toList.rightpad (widthIn rows heading) ' ')
  dashes (k : ℕ) (heading : String) : (headings rows)[k]? = some heading →
    column (widths rows) dashes k = List.replicate (widthIn rows heading) '-'
  body (i : ℕ) (row : Row) : rows[i]? = some row → ∃ line, body[i]? = some line ∧
    ∀ k heading, (headings rows)[k]? = some heading →
      Stands (row.value heading) (widthIn rows heading) (column (widths rows) line k)

theorem isAligned_lines (rows : Dataset) :
    IsAligned rows (lineOf rows headingCell) (lineOf rows (dashCell rows))
      (rows.map fun row => lineOf rows (rowCell row)) where
  within line hline := by
    rcases List.mem_cons.mp hline with rfl | hline
    · exact length_lineOf_le fun heading _ => headingCell_fits heading
    rcases List.mem_cons.mp hline with rfl | hline
    · exact length_lineOf_le fun heading _ => dashCell_fits heading
    · obtain ⟨row, hrow, rfl⟩ := List.mem_map.mp hline
      exact length_lineOf_le fun heading _ => rowCell_fits hrow heading
  header k heading h := by
    have hshows := shows_lineOf (fun heading _ => headingCell_fits heading) h
    rw [toList_padded] at hshows
    exact hshows
  dashes k heading h := by
    have hshows := shows_lineOf (fun heading _ => dashCell_fits heading) h
    have htext : ((dashCell rows heading).padded (widthIn rows heading)).toList =
        List.replicate (widthIn rows heading) '-' := by
      simp [toList_padded, dashCell, List.rightpad]
    rw [htext] at hshows
    refine hshows.eq_of_visible fun c hc => ?_
    rw [List.eq_of_mem_replicate (List.mem_of_getLast? hc)]
    rfl
  body i row hrow := by
    refine ⟨lineOf rows (rowCell row), by simp [hrow], fun k heading h => ?_⟩
    have hmem := List.mem_of_getElem? hrow
    exact stands_of_shows (shows_lineOf (fun heading _ => rowCell_fits hmem heading) h)

end Tables

section Breaks

/-- Whether a character begins a new line. -/
def isBreak (c : Char) : Bool :=
  c == '\n' || c == '\r'

theorem isBreak_onOneLine (c : Char) : isBreak (onOneLine c) = false := by
  unfold onOneLine
  split
  · rfl
  · simp_all [isBreak]

theorem filter_joined {p : Char → Bool} (space : p ' ' = false) (columns : List (List Char)) :
    (joined columns).filter p = columns.flatMap (List.filter p) := by
  induction columns with
  | nil => rfl
  | cons first columns ih =>
    cases columns with
    | nil => simp [joined]
    | cons next columns =>
      have hgap : [' ', ' '].filter p = [] := by simp [space]
      rw [joined, List.intercalate_cons_cons, List.filter_append, List.filter_append, hgap,
        List.append_nil, List.flatMap_cons, ← ih]
      rfl

theorem filter_padded {p : Char → Bool} (space : p ' ' = false) (cell : Cell) (width : ℕ) :
    (cell.padded width).toList.filter p = cell.text.toList.filter p := by
  rw [toList_padded]
  split <;> simp [List.leftpad, List.rightpad, space]

/-- Apart from spaces a line has just the characters of its cells. -/
theorem filter_cellTexts {p : Char → Bool} (space : p ' ' = false) (rows : Dataset)
    (cells : String → Cell) : (joined (cellTexts rows cells)).filter p =
      (headings rows).flatMap fun heading => (cells heading).text.toList.filter p := by
  rw [filter_joined space, cellTexts, List.flatMap_map]
  simp only [filter_padded space]

/-- A line breaks only where one of its cells does. -/
theorem not_isBreak_of_mem_lineOf {rows : Dataset} {cells : String → Cell}
    (whole : ∀ heading ∈ headings rows, ∀ c ∈ (cells heading).text.toList, isBreak c = false)
    {c : Char} (h : c ∈ lineOf rows cells) : isBreak c = false := by
  by_contra hbreak
  have hmem : c ∈ (joined (cellTexts rows cells)).filter isBreak :=
    List.mem_filter.mpr ⟨(List.rdropWhile_prefix _ _).mem h, Bool.not_eq_false _ ▸ hbreak⟩
  rw [filter_cellTexts rfl, List.mem_flatMap] at hmem
  obtain ⟨heading, hheading, hc⟩ := hmem
  exact hbreak (whole heading hheading c (List.mem_of_mem_filter hc))

/-- The line of the headings breaks where they do, not counting breaks behind their last visible
character. -/
theorem mem_headerLine {rows : Dataset} {c : Char} (visible : c ≠ ' ') :
    c ∈ lineOf rows headingCell ↔
      c ∈ dropEndWhile isBlank ((headings rows).flatMap String.toList) := by
  have hout (c : Char) (h : (c != ' ') = false) : isBlank c = true := by
    rw [bne_eq_false_iff_eq.mp h]
    rfl
  have hfilter : (lineOf rows headingCell).filter (· != ' ') =
      (dropEndWhile isBlank ((headings rows).flatMap String.toList)).filter (· != ' ') := by
    rw [lineOf, Text.filter_dropEndWhile hout, Text.filter_dropEndWhile hout,
      filter_cellTexts (p := (· != ' ')) rfl, List.filter_flatMap]
    rfl
  have hmem (cs : List Char) : c ∈ cs.filter (· != ' ') ↔ c ∈ cs := by
    simp [visible]
  rw [← hmem, hfilter, hmem]

theorem countP_ended (lines : List (List Char)) :
    (ended lines).countP isBreak = (lines.map (List.countP isBreak)).sum + lines.length := by
  induction lines with
  | nil => rfl
  | cons line lines ih =>
    have hbreak : [('\n' : Char)].countP isBreak = 1 := rfl
    rw [ended, List.flatMap_cons, ← ended, List.countP_append, List.countP_append, hbreak, ih,
      List.map_cons, List.sum_cons, List.length_cons]
    omega

theorem not_isBreak_dashLine (rows : Dataset) :
    ∀ c ∈ lineOf rows (dashCell rows), isBreak c = false := by
  refine fun c => not_isBreak_of_mem_lineOf fun heading _ c hc => ?_
  rw [dashCell, String.toList_ofList] at hc
  rw [List.eq_of_mem_replicate hc]
  rfl

theorem not_isBreak_rowLine (rows : Dataset) (row : Row) :
    ∀ c ∈ lineOf rows (rowCell row), isBreak c = false := by
  refine fun c => not_isBreak_of_mem_lineOf fun heading _ c hc => ?_
  rw [rowCell, Cell.ofValue] at hc
  dsimp only at hc
  split at hc
  · cases hc
  · rw [String.toList_ofList] at hc
    obtain ⟨d, -, rfl⟩ := List.mem_map.mp hc
    exact isBreak_onOneLine d

theorem not_isBreak_body (rows : Dataset) :
    ∀ line ∈ lineOf rows (dashCell rows) :: rows.map fun row => lineOf rows (rowCell row),
      ∀ c ∈ line, isBreak c = false := by
  intro line hline
  rcases List.mem_cons.mp hline with rfl | hline
  · exact not_isBreak_dashLine rows
  · obtain ⟨row, -, rfl⟩ := List.mem_map.mp hline
    exact not_isBreak_rowLine rows row

theorem not_isBreak_headerLine_iff (rows : Dataset) :
    (∀ c ∈ lineOf rows headingCell, isBreak c = false) ↔
      ∀ c ∈ dropEndWhile isBlank ((headings rows).flatMap String.toList), isBreak c = false := by
  refine forall_congr' fun c => ?_
  by_cases hspace : c = ' '
  · subst hspace
    exact iff_of_true (fun _ => rfl) (fun _ => rfl)
  · rw [mem_headerLine hspace]

/-- A text with as many line breaks as lines has none within a line. -/
theorem not_isBreak_of_ended_eq {header : List Char} {body lines : List (List Char)}
    (eq : ended (header :: body) = ended lines) (length : lines.length = body.length + 1)
    (whole : ∀ line ∈ lines, ∀ c ∈ line, isBreak c = false) : ∀ c ∈ header, isBreak c = false := by
  have hlines : (lines.map (List.countP isBreak)).sum = 0 := by
    refine List.sum_eq_zero fun count hcount => ?_
    obtain ⟨line, hline, rfl⟩ := List.mem_map.mp hcount
    exact List.countP_eq_zero.mpr fun c hc => by simp [whole line hline c hc]
  have hcount := congrArg (List.countP isBreak) eq
  rw [countP_ended, countP_ended, hlines, List.map_cons, List.sum_cons, List.length_cons,
    length] at hcount
  have hheader : header.countP isBreak = 0 := by omega
  exact fun c hc => Bool.eq_false_iff.mpr (List.countP_eq_zero.mp hheader c hc)

/-- The text is a table of the rows: a line for the headings, a line of dashes and a line for every
row, each ended by a newline and without other line breaks, with everything in its column. -/
def IsTable (rows : Dataset) (text : String) : Prop :=
  ∃ header dashes body, text.toList = ended (header :: dashes :: body) ∧
    body.length = rows.length ∧
    (∀ line ∈ header :: dashes :: body, ∀ c ∈ line, isBreak c = false) ∧
    IsAligned rows header dashes body

theorem length_rowLines (rows : Dataset) :
    (rows.map fun row => lineOf rows (rowCell row)).length = rows.length :=
  List.length_map _

/-- The headings are printed as they are, so their line breaks are those of the table. -/
theorem isTable_render_iff (rows : Dataset) : IsTable rows (render rows) ↔
    ∀ c ∈ dropEndWhile isBlank ((headings rows).flatMap String.toList), isBreak c = false := by
  rw [← not_isBreak_headerLine_iff]
  constructor
  · rintro ⟨header, dashes, body, htext, hbody, whole, -⟩
    rw [toList_render] at htext
    refine not_isBreak_of_ended_eq htext ?_ whole
    simp [hbody]
  · intro hheader
    exact ⟨_, _, _, toList_render rows, length_rowLines rows,
      List.forall_mem_cons.mpr ⟨hheader, not_isBreak_body rows⟩, isAligned_lines rows⟩

/-- Rows are printed as a line for the headings, a line of dashes and a line for every row, with
everything in its column, and whatever the cells hold, their lines break nowhere. So the text has
just one line for each of these, unless a line break stands in front of a visible character of the
headings. -/
theorem tables_are_aligned_lines (rows : Dataset) :
    (∃ header dashes body, (render rows).toList = ended (header :: dashes :: body) ∧
      body.length = rows.length ∧
      (∀ line ∈ dashes :: body, ∀ c ∈ line, isBreak c = false) ∧
      IsAligned rows header dashes body) ∧
    (IsTable rows (render rows) ↔
      ∀ c ∈ dropEndWhile isBlank ((headings rows).flatMap String.toList), isBreak c = false) :=
  ⟨⟨_, _, _, toList_render rows, length_rowLines rows, not_isBreak_body rows,
    isAligned_lines rows⟩, isTable_render_iff rows⟩

/-- A heading with a line break takes two lines, which cells never do. -/
theorem heading_breaks_table :
    let rows : Dataset := [.ofCells [("a\nb", .integer 1)]]
    render rows = "a\nb\n---\n  1\n" ∧ ¬ IsTable rows (render rows) ∧
    render [.ofCells [("a", .text "a\nb")]] = "a\n---\na b\n" := by
  intro rows
  have hheadings : headings rows = ["a\nb"] := by decide +kernel
  refine ⟨by decide +kernel, fun h => ?_, by decide +kernel⟩
  have hbreak := (isTable_render_iff rows).mp h '\n' (by rw [hheadings]; decide +kernel)
  exact absurd hbreak (by decide)

end Breaks

end TableTalk.Rendering
