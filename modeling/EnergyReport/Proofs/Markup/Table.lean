import EnergyReport.Markup.Line
import EnergyReport.Markup.Table
import EnergyReport.Proofs.Html.Rendering
import EnergyReport.Proofs.Text.Margin

namespace EnergyReport.Markup.Table

/-! A table shows the cells of its lines, each at its place, and no others.

A line is cut at its bars. The header is not looked at; a later line is left out only where it has
something between its outer bars and nothing of it is content. -/

/-- A character that no alignment is made of. -/
def IsContent (c : Char) : Prop :=
  Text.isBlank c = false ∧ c ≠ '-' ∧ c ≠ ':' ∧ c ≠ '|'

instance (c : Char) : Decidable (IsContent c) :=
  inferInstanceAs (Decidable (_ ∧ _))

/-- What stands between the two ends of a line. -/
def inner (line : Text) : Text :=
  (line.drop 1).dropLast

/-- Whether a line below the header makes a row. -/
def MakesRow (line : Text) : Prop :=
  inner line = [] ∨ ∃ c ∈ inner line, IsContent c

instance (line : Text) : Decidable (MakesRow line) :=
  have : Decidable (∃ c ∈ inner line, IsContent c) := List.decidableBEx _ _
  inferInstanceAs (Decidable (_ ∨ _))

/-- The text between a bar, counted from zero, and the next one. -/
def Between (line : Text) (bar : Nat) (part : Text) : Prop :=
  '|' ∉ part ∧ ∃ before after,
    line = before ++ '|' :: (part ++ '|' :: after) ∧ before.count '|' = bar

/-- The cells of a line: one for each bar but the last. -/
structure Shows (line : Text) (cells : List Text) : Prop where
  length : cells.length + 1 = line.count '|'
  cell : ∀ bar (inside : bar < cells.length),
    ∃ part, Between line bar part ∧ cells[bar] = Text.trim part

def framed (tag content : String) : String :=
  "<" ++ tag ++ ">" ++ content ++ "</" ++ tag ++ ">"

def writtenRow (tag : String) (cells : List Text) : String :=
  framed "tr" (String.join (cells.map fun cell =>
    framed tag (Html.render (Inline.pieces .shown cell))))

/-- The page of a table with the given cells. -/
def written (header : List Text) (rows : List (List Text)) : String :=
  framed "table" (framed "thead" (writtenRow "th" header) ++
    framed "tbody" (String.join (rows.map (writtenRow "td"))))

/-- The line that shows some cells, with a blank on either side of each. -/
def lineOf (cells : List Text) : Text :=
  '|' :: cells.flatMap fun cell => ' ' :: cell ++ [' ', '|']

/-! ### The page of a table -/

theorem render_element_bare (tag : String) (content : List Html.Piece) :
    Html.render (Html.element tag [] content) = framed tag (Html.render content) := by
  have bare : Html.renderTag tag [] = tag := by simp [Html.renderTag]
  rw [Html.render_element, bare, framed]

theorem render_row (tag : String) (line : Text) :
    Html.render (row tag line) = writtenRow tag (cells line) := by
  simp only [row, writtenRow, render_element_bare, Html.render_flatMap]

theorem render_pieces (header : Text) (body : List Text) :
    Html.render (pieces (header :: body)) =
      written (cells header) ((body.filter fun line => !isSeparator line).map cells) := by
  simp only [pieces, written, render_element_bare, Html.render_append, Html.render_flatMap,
    render_row, List.map_map, Function.comp_def]

/-! ### Lines cut at their bars -/

/-- The line with bars around its parts. -/
def barred : List Text → Text
  | [] => ['|']
  | part :: others => '|' :: (part ++ barred others)

theorem exists_barred_eq (parts : List Text) : ∃ after, barred parts = '|' :: after := by
  cases parts with
  | nil => exact ⟨[], rfl⟩
  | cons part others => exact ⟨part ++ barred others, rfl⟩

theorem splitOn_barred {parts : List Text} (barless : ∀ part ∈ parts, '|' ∉ part) :
    Text.splitOn '|' (barred parts) = [] :: (parts ++ [[]]) := by
  induction parts with
  | nil => rfl
  | cons part others ih =>
      rw [List.forall_mem_cons] at barless
      obtain ⟨after, rest⟩ := exists_barred_eq others
      have following := ih barless.2
      rw [rest, Text.splitOn, if_pos rfl, List.cons.injEq] at following
      rw [barred, rest, Text.splitOn, if_pos rfl, Text.splitOn_append_cons,
        Text.splitOn_of_not_mem barless.1, following.2]
      rfl

theorem cells_barred {parts : List Text} (barless : ∀ part ∈ parts, '|' ∉ part) :
    cells (barred parts) = parts.map Text.trim := by
  rw [cells, splitOn_barred barless, List.drop_one, List.tail_cons, List.dropLast_concat]

theorem count_barred {parts : List Text} (barless : ∀ part ∈ parts, '|' ∉ part) :
    parts.length + 1 = (barred parts).count '|' := by
  induction parts with
  | nil => rfl
  | cons part others ih =>
      rw [List.forall_mem_cons] at barless
      rw [barred, List.count_cons_self, List.count_append,
        List.count_eq_zero_of_not_mem barless.1, ← ih barless.2]
      simp

theorem between_barred {parts : List Text} (barless : ∀ part ∈ parts, '|' ∉ part) {bar : Nat}
    (inside : bar < parts.length) : Between (barred parts) bar parts[bar] := by
  induction parts generalizing bar with
  | nil => contradiction
  | cons part others ih =>
      rw [List.forall_mem_cons] at barless
      cases bar with
      | zero =>
          obtain ⟨after, rest⟩ := exists_barred_eq others
          exact ⟨barless.1, [], after, by simp [barred, rest], rfl⟩
      | succ bar =>
          obtain ⟨noBar, before, after, parts, count⟩ :=
            ih barless.2 (Nat.lt_of_succ_lt_succ inside)
          refine ⟨noBar, '|' :: (part ++ before), after, ?_, ?_⟩
          · simp [barred, parts]
          · rw [List.count_cons_self, List.count_append,
              List.count_eq_zero_of_not_mem barless.1, count, Nat.zero_add]

theorem shows_cells_barred {parts : List Text} (barless : ∀ part ∈ parts, '|' ∉ part) :
    Shows (barred parts) (cells (barred parts)) := by
  rw [cells_barred barless]
  refine ⟨?_, fun bar inside => ?_⟩
  · rw [List.length_map]
    exact count_barred barless
  · rw [List.length_map] at inside
    exact ⟨parts[bar], between_barred barless inside, List.getElem_map _⟩

/-- What follows a bar and ends with one is cut into parts. -/
theorem exists_barred {rest : Text} (ends : ∀ c ∈ rest.getLast?, c = '|') :
    ∃ parts, (∀ part ∈ parts, '|' ∉ part) ∧ '|' :: rest = barred parts := by
  induction rest with
  | nil => exact ⟨[], by simp, rfl⟩
  | cons c more ih =>
      have endsMore : ∀ last ∈ more.getLast?, last = '|' := by
        intro last isLast
        apply ends
        rw [Option.mem_def] at isLast ⊢
        simp [List.getLast?_cons, isLast]
      obtain ⟨parts, barless, whole⟩ := ih endsMore
      by_cases bar : c = '|'
      · refine ⟨[] :: parts, List.forall_mem_cons.mpr ⟨by simp, barless⟩, ?_⟩
        rw [bar, whole]
        rfl
      · cases parts with
        | nil =>
            cases whole
            exact absurd (ends c rfl) bar
        | cons part others =>
            obtain ⟨_, rfl⟩ := List.cons.inj whole
            rw [List.forall_mem_cons] at barless
            refine ⟨(c :: part) :: others, List.forall_mem_cons.mpr ⟨?_, barless.2⟩, rfl⟩
            simp [barless.1, Ne.symm bar]

variable {line : Text}

theorem eq_bar_or_exists_middle (tableRow : Line.isTableRow line) :
    line = ['|'] ∨ ∃ middle, line = '|' :: (middle ++ ['|']) := by
  simp only [Line.isTableRow, Bool.and_eq_true, decide_eq_true_eq] at tableRow
  obtain ⟨begins, ends⟩ := tableRow
  obtain ⟨before, rfl⟩ := List.getLast?_eq_some_iff.mp ends
  cases before with
  | nil => exact .inl rfl
  | cons first middle =>
      obtain rfl : first = '|' := by simpa using begins
      exact .inr ⟨middle, rfl⟩

theorem shows_cells (tableRow : Line.isTableRow line) : Shows line (cells line) := by
  obtain ⟨parts, barless, rfl⟩ : ∃ parts, (∀ part ∈ parts, '|' ∉ part) ∧ line = barred parts := by
    rcases eq_bar_or_exists_middle tableRow with rfl | ⟨middle, rfl⟩
    · exact exists_barred (by simp)
    · exact exists_barred (by simp)
  exact shows_cells_barred barless

/-! ### Lines that are left out -/

theorem isAlignment_eq_false_iff {c : Char} : isAlignment c = false ↔ IsContent c := by
  simp [isAlignment, IsContent, and_assoc]

theorem isSeparator_eq_false_iff (tableRow : Line.isTableRow line) :
    isSeparator line = false ↔ MakesRow line := by
  have dark : Text.isBlank '|' = false := by decide
  rcases eq_bar_or_exists_middle tableRow with rfl | ⟨middle, rfl⟩
  · simp [MakesRow, inner]
    decide
  · have between : inner ('|' :: (middle ++ ['|'])) = middle := by simp [inner]
    rw [isSeparator, ← List.cons_append, Text.trim_of_dark_ends dark dark, List.cons_append,
      MakesRow, between]
    simp [← isAlignment_eq_false_iff, imp_iff_not_or]

-- bars with nothing between them make a row, bars with a blank between them do not
example : (["|---|", "|", "||", "| |", "|é|"].map String.toList).filter (MakesRow ·) =
    ["|", "||", "|é|"].map String.toList := by
  decide +kernel

/-! ### Lines of a grid -/

theorem lineOf_eq_barred (cells : List Text) :
    lineOf cells = barred (cells.map fun cell => ' ' :: cell ++ [' ']) := by
  induction cells with
  | nil => rfl
  | cons cell others ih =>
      rw [List.map_cons, barred, ← ih]
      simp [lineOf]

theorem isTableRow_lineOf (cells : List Text) : Line.isTableRow (lineOf cells) := by
  have ends : (lineOf cells).getLast? = some '|' := by
    rw [lineOf_eq_barred]
    induction cells with
    | nil => rfl
    | cons cell others ih =>
        rw [List.map_cons, barred, List.getLast?_cons, List.getLast?_append, ih]
        rfl
  simp [Line.isTableRow, ends]
  rfl

variable {row : List Text}

theorem trim_between_blanks (cell : Text) : Text.trim (' ' :: cell ++ [' ']) = Text.trim cell := by
  have blank : ∀ c ∈ [' '], Text.isBlank c := List.forall_mem_singleton.mpr rfl
  apply Text.Pads.trim_eq
  exact ⟨[' '], [' '], blank, blank, rfl⟩

theorem cells_lineOf (trimmed : ∀ cell ∈ row, Text.trim cell = cell)
    (barless : ∀ cell ∈ row, '|' ∉ cell) : cells (lineOf row) = row := by
  have between : ∀ part ∈ row.map fun cell => ' ' :: cell ++ [' '], '|' ∉ part := by
    intro part member
    obtain ⟨cell, inRow, rfl⟩ := List.mem_map.mp member
    simp [barless cell inRow]
  rw [lineOf_eq_barred, cells_barred between, List.map_map]
  refine (List.map_congr_left fun cell member => ?_).trans (List.map_id row)
  exact (trim_between_blanks cell).trans (trimmed cell member)

theorem makesRow_lineOf (content : ∃ cell ∈ row, ∃ c ∈ cell, IsContent c) :
    MakesRow (lineOf row) := by
  obtain ⟨cell, inRow, c, inCell, isContent⟩ := content
  have member : c ∈ lineOf row :=
    List.mem_cons_of_mem _ (List.mem_flatMap.mpr ⟨cell, inRow, by simp [inCell]⟩)
  have notBar : c ≠ '|' := isContent.2.2.2
  rcases eq_bar_or_exists_middle (isTableRow_lineOf row) with bar | ⟨middle, line⟩
  · rw [bar, List.mem_singleton] at member
    exact absurd member notBar
  · have inMiddle : c ∈ middle := by simpa [line, notBar] using member
    exact .inr ⟨c, by simpa [line, inner] using inMiddle, isContent⟩

/-! ### The whole table -/

theorem filter_isSeparator {body : List Text} (tableRows : ∀ line ∈ body, Line.isTableRow line) :
    (body.filter fun line => !isSeparator line) = body.filter (MakesRow ·) := by
  refine List.filter_congr fun line member => ?_
  have same := isSeparator_eq_false_iff (tableRows line member)
  rw [Bool.eq_iff_iff, Bool.not_eq_true', same, decide_eq_true_eq]

/-- The page of a table has a row for its header and one for each later line that makes a row, with
the cells that stand between the bars of the line. So the lines of a grid are shown as the grid,
where each row below the header has some content. -/
theorem table_shows_cells :
    (∀ header body, (∀ line ∈ header :: body, Line.isTableRow line) →
      ∃ headings rows, Shows header headings ∧ List.Forall₂ Shows (body.filter (MakesRow ·)) rows ∧
        Html.render (pieces (header :: body)) = written headings rows) ∧
    ∀ header rows, (∀ row ∈ header :: rows, ∀ cell ∈ row, Text.trim cell = cell ∧ '|' ∉ cell) →
      (∀ row ∈ rows, ∃ cell ∈ row, ∃ c ∈ cell, IsContent c) →
      Html.render (pieces ((header :: rows).map lineOf)) = written header rows := by
  constructor
  · intro header body tableRows
    obtain ⟨barredHeader, barredBody⟩ := List.forall_mem_cons.mp tableRows
    refine ⟨cells header, (body.filter (MakesRow ·)).map cells, shows_cells barredHeader, ?_, ?_⟩
    · rw [List.forall₂_map_right_iff, List.forall₂_same]
      intro line member
      exact shows_cells (barredBody line (List.mem_of_mem_filter member))
    · rw [render_pieces, filter_isSeparator barredBody]
  · intro header rows plain content
    have readBack : ∀ row ∈ header :: rows, cells (lineOf row) = row := fun row member =>
      cells_lineOf (fun cell inRow => (plain row member cell inRow).1)
        fun cell inRow => (plain row member cell inRow).2
    obtain ⟨headings, below⟩ := List.forall_mem_cons.mp readBack
    have tableRows : ∀ line ∈ rows.map lineOf, Line.isTableRow line :=
      List.forall_mem_map.mpr fun row _ => isTableRow_lineOf row
    have allKept : ∀ line ∈ rows.map lineOf, MakesRow line :=
      List.forall_mem_map.mpr fun row member => makesRow_lineOf (content row member)
    have kept : (rows.map lineOf).filter (MakesRow ·) = rows.map lineOf :=
      List.filter_eq_self.mpr fun line member => decide_eq_true (allKept line member)
    rw [List.map_cons, render_pieces, filter_isSeparator tableRows, kept, headings, List.map_map]
    exact congrArg (written header) ((List.map_congr_left below).trans (List.map_id rows))

/-- A header that looks like a separator, separators and bars without cells below it, and a grid
with an empty cell. -/
theorem table_shows_cells_raggedRows :
    let header := "| --- | :-: |".toList
    let body := ["|---|:-:|", "| 1 |", "|", "||", "| |", "| x || urgent |"].map String.toList
    let headings := ["A", ""].map String.toList
    let grid := [["x", "", "- 1"], ["é"]].map fun row => row.map String.toList
    (∀ line ∈ header :: body, Line.isTableRow line) ∧
      (∃ cells rows, Shows header cells ∧ List.Forall₂ Shows (body.filter (MakesRow ·)) rows ∧
        Html.render (pieces (header :: body)) = written cells rows) ∧
      (∀ row ∈ headings :: grid, ∀ cell ∈ row, Text.trim cell = cell ∧ '|' ∉ cell) ∧
      (∀ row ∈ grid, ∃ cell ∈ row, ∃ c ∈ cell, IsContent c) ∧
      Html.render (pieces ((headings :: grid).map lineOf)) = written headings grid := by
  intro header body headings grid
  have tableRows : ∀ line ∈ header :: body, Line.isTableRow line := by decide +kernel
  have plain : ∀ row ∈ headings :: grid, ∀ cell ∈ row, Text.trim cell = cell ∧ '|' ∉ cell := by
    decide +kernel
  have content : ∀ row ∈ grid, ∃ cell ∈ row, ∃ c ∈ cell, IsContent c := by
    have found : ∀ row ∈ grid, row.any fun cell => cell.any (IsContent ·) := by decide +kernel
    simpa only [List.any_eq_true, decide_eq_true_eq] using found
  exact ⟨tableRows, table_shows_cells.1 header body tableRows, plain, content,
    table_shows_cells.2 headings grid plain content⟩

end EnergyReport.Markup.Table
