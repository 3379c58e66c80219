import EnergyReport.Proofs.Markup.Insertion
import EnergyReport.Proofs.Markup.Safety

namespace EnergyReport.Markup

open Html

/-! What an insertion adds to the page of a report, measured on the page itself.

A weight adds up over the parts of a text. The length of the page tells a list or a table
that was split, and its ampersands tell a directive that is shown as text. -/

/-- A measure of texts that adds up and does not tell header cells from other cells. -/
structure Weight where
  weigh : Text → Nat
  append : ∀ first second, weigh (first ++ second) = weigh first + weigh second
  cells : weigh "th".toList = weigh "td".toList

namespace Weight

def length : Weight where
  weigh := List.length
  append := fun _ _ => List.length_append
  cells := by decide

def ampersands : Weight where
  weigh := List.count '&'
  append := fun _ _ => List.count_append
  cells := by decide

variable (weight : Weight)

def of (pieces : List Piece) : Nat :=
  weight.weigh (render pieces).toList

theorem weigh_nil : weight.weigh [] = 0 := by
  have twice := weight.append [] []
  simp only [List.append_nil] at twice
  omega

@[simp] theorem of_nil : weight.of [] = 0 := by
  simp [of, weight.weigh_nil]

@[simp] theorem of_append (first second : List Piece) :
    weight.of (first ++ second) = weight.of first + weight.of second := by
  simp [of, render_append, weight.append]

theorem of_cons (piece : Piece) (rest : List Piece) :
    weight.of (piece :: rest) = weight.of [piece] + weight.of rest :=
  weight.of_append [piece] rest

theorem of_element (tag : String) (attributes : List Attribute) (content : List Piece) :
    weight.of (element tag attributes content) =
      weight.of [.opening tag attributes] + weight.of content + weight.of [.closing tag] := by
  rw [element, List.cons_append, of_cons, of_append, Nat.add_assoc]

theorem of_flatMap_congr {α : Type} {parts : List α} {first second : α → List Piece}
    (same : ∀ part ∈ parts, weight.of (first part) = weight.of (second part)) :
    weight.of (parts.flatMap first) = weight.of (parts.flatMap second) := by
  induction parts with
  | nil => rfl
  | cons part rest ih =>
      simp only [List.flatMap_cons, of_append, same part (by simp),
        ih fun other member => same other (List.mem_cons_of_mem _ member)]

theorem of_opening (tag : String) :
    weight.of [.opening tag []] =
      weight.weigh ['<'] + weight.weigh tag.toList + weight.weigh ['>'] := by
  rw [of, toList_render, ← weight.append, ← weight.append]
  simp [Piece.render, renderTag]

theorem of_closing (tag : String) :
    weight.of [.closing tag] =
      weight.weigh ['<', '/'] + weight.weigh tag.toList + weight.weigh ['>'] := by
  rw [of, toList_render, ← weight.append, ← weight.append]
  simp [Piece.render]

/-- A row weighs the same in the header as in the body. -/
theorem of_row (line : Text) :
    weight.of (Table.row "th" line) = weight.of (Table.row "td" line) := by
  have cells : weight.of ((Table.cells line).flatMap fun cell =>
        element "th" [] (Inline.pieces .shown cell)) =
      weight.of ((Table.cells line).flatMap fun cell =>
        element "td" [] (Inline.pieces .shown cell)) := by
    apply of_flatMap_congr
    intro cell _
    simp only [of_element, of_opening, of_closing, weight.cells]
  rw [Table.row, Table.row, of_element, of_element, cells]

def tableFrame : List Piece :=
  element "table" [] (element "thead" [] [] ++ element "tbody" [] [])

theorem of_table (header : Text) (body : List Text) :
    weight.of (Table.pieces (header :: body)) =
      weight.of tableFrame + weight.of (Table.row "td" header) +
        weight.of ((body.filter fun line => !Table.isSeparator line).flatMap (Table.row "td")) := by
  simp only [Table.pieces, tableFrame, of_element, of_append, of_row, of_nil]
  omega

/-- A list or table that is split weighs as much more as the tags that are written twice. -/
theorem of_split {whole left right : Block} (split : Block.Split whole left right) :
    ∃ frame, frame ≠ [] ∧ ∀ weight : Weight,
      weight.of whole.pieces + weight.weigh frame ≤
        weight.of left.pieces + weight.of right.pieces := by
  cases split with
  | list kind first second =>
      refine ⟨(render (element kind.tag [] [])).toList, ?_, fun weight => ?_⟩
      · cases kind <;> decide
      · have frame : weight.weigh (render (element kind.tag [] [])).toList =
            weight.of [.opening kind.tag []] + weight.of [.closing kind.tag] := by
          rw [← of, of_element, of_nil, Nat.add_zero]
        simp only [Block.pieces, of_element, List.flatMap_append, of_append, frame]
        omega
  | table first second rowsBefore rowsAfter =>
      obtain ⟨header, body, rfl⟩ := List.exists_cons_of_ne_nil rowsBefore
      obtain ⟨header', body', rfl⟩ := List.exists_cons_of_ne_nil rowsAfter
      refine ⟨(render tableFrame).toList, by decide, fun weight => ?_⟩
      have shown : weight.of (((header' :: body').filter fun line =>
            !Table.isSeparator line).flatMap (Table.row "td")) ≤
          weight.of (Table.row "td" header') +
            weight.of ((body'.filter fun line => !Table.isSeparator line).flatMap
              (Table.row "td")) := by
        rw [List.filter_cons]
        split
        · simp
        · omega
      have frame : weight.weigh (render tableFrame).toList = weight.of tableFrame := rfl
      simp only [Block.pieces, List.cons_append, of_table, List.filter_append,
        List.flatMap_append, of_append, frame]
      omega

theorem ampersands_chart (directive : Directive) : ampersands.of directive.pieces = 0 :=
  List.count_eq_zero.mpr directive.ampersand_not_mem_render

/-- Formatting leaves an angle bracket at the beginning of a line where it is. -/
theorem exists_atoms_of_lt (badges : Badges) (rest : Text) :
    ∃ more, Inline.atoms badges ('<' :: rest) = .char '<' :: more := by
  obtain ⟨strong, first⟩ : ∃ strong, Inline.markStrong ('<' :: rest) = .char '<' :: strong :=
    ⟨_, rfl⟩
  obtain ⟨emphasis, second⟩ : ∃ emphasis,
      Inline.markEmphasis (.char '<' :: strong) = .char '<' :: emphasis := ⟨_, rfl⟩
  cases badges with
  | suppressed => exact ⟨emphasis, by simp only [Inline.atoms, first, second]⟩
  | shown =>
      have noWord : Inline.badge? none (.char '<' :: emphasis) = none := by
        have small : Text.foldCase '<' = '<' := by decide
        simp [Inline.badge?, Inline.priority?, Badge.all, Badge.words, Inline.stripWord?, small]
      simp only [Inline.atoms, first, second, Inline.showBadges, Text.substitute,
        Text.substituteFrom, noWord]
      exact ⟨_, rfl⟩

/-- A line of a callout that begins with an angle bracket is shown with an ampersand. -/
theorem ampersands_linePieces_pos {line rest : Text} (begins : Text.trim line = '<' :: rest) :
    0 < ampersands.of (Callout.linePieces line) := by
  obtain ⟨more, atoms⟩ := exists_atoms_of_lt .shown rest
  have bracket : 0 < ampersands.of [.text ['<']] := by decide
  simp only [Callout.linePieces, begins, List.isEmpty_cons, Bool.false_eq_true, if_false,
    of_element, Inline.pieces, atoms, List.flatMap_cons, Atom.pieces, of_append]
  omega

theorem ampersands_callout_lt {line rest : Text} {before after resumed : List Text}
    (kind : CalloutKind) (resumes : Grammar.Resumes after resumed)
    (begins : Text.trim line = '<' :: rest) :
    ampersands.of (Block.callout kind (before ++ after)).pieces <
      ampersands.of (Block.callout kind (before ++ line :: resumed)).pieces := by
  have shown := ampersands_linePieces_pos begins
  have keeps : ampersands.of (after.flatMap Callout.linePieces) ≤
      ampersands.of (resumed.flatMap Callout.linePieces) := by
    rcases resumes with rfl | ⟨rfl, rfl⟩
    · exact Nat.le_refl _
    · simp
  simp only [Block.pieces, Callout.pieces, of_element, of_append, List.flatMap_append,
    List.flatMap_cons]
  omega

end Weight

end EnergyReport.Markup
