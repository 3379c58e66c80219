import EnergyReport.Proofs.Markup.Composition
import EnergyReport.Proofs.Markup.Trimming
import EnergyReport.Proofs.Text.Margin

namespace EnergyReport.Markup

/-! Blanks around the lines of a report.

They do not matter anywhere: every line is trimmed before its kind is told, and those that a
callout keeps are trimmed when the callout is written. Only the byte order mark is looked for in
the text as it is. -/

/-- A text that begins with a byte order mark has a line that begins with it when it is trimmed. -/
theorem head?_ne_of_lines {text : Text}
    (unmarked : ∀ line ∈ (Text.lines text).map Text.trim, line.head? ≠ some '\uFEFF') :
    text.head? ≠ some '\uFEFF' := by
  intro marked
  obtain ⟨rest, rfl⟩ := List.head?_eq_some_iff.mp marked
  obtain ⟨line, ended, _, _, parts, oneLine, ends⟩ := Text.exists_line rest
  have first : '\uFEFF' :: line ∈ Text.lines ('\uFEFF' :: rest) := by
    have notFeed : '\n' ∉ '\uFEFF' :: line := by simp [oneLine]
    rcases ends with rfl | ⟨below, rfl⟩
    · rw [parts, List.append_nil, Text.lines_of_not_mem notFeed]
      exact List.mem_singleton_self _
    · rw [parts, ← List.cons_append, Text.lines_cons notFeed]
      exact List.mem_cons_self
  exact unmarked _ (List.mem_map_of_mem first) (Text.head?_trim (by decide) line)

/-- Blanks around lines change neither the page of a report nor its sections, as long as no line
begins with a byte order mark, which is left out only where nothing stands before it. -/
theorem render_eq_of_sameButMargins {first second : Text} (same : Text.SameButMargins first second)
    (unmarked : ∀ line ∈ Text.lines first, (Text.trim line).head? ≠ some '\uFEFF') :
    Html.render (Body.ofText second).pieces = Html.render (Body.ofText first).pieces ∧
      (Body.ofText second).sections = (Body.ofText first).sections := by
  have trimmed := Text.sameButMargins_iff.mp same
  have unmarkedFirst : ∀ line ∈ (Text.lines first).map Text.trim, line.head? ≠ some '\uFEFF' :=
    List.forall_mem_map.mpr unmarked
  have lines : (Text.lines (dropByteOrderMark second)).map Text.trim =
      (Text.lines (dropByteOrderMark first)).map Text.trim := by
    rw [dropByteOrderMark_of_unmarked (head?_ne_of_lines unmarkedFirst),
      dropByteOrderMark_of_unmarked (head?_ne_of_lines (trimmed ▸ unmarkedFirst)), trimmed]
  obtain ⟨pieces, sections⟩ := Body.pieces_eq_of_trim lines
  exact ⟨congrArg Html.render pieces, sections⟩

/-- A report with a callout, a table and a list, and the same one with indented lines and returns
before their ends. -/
theorem render_eq_of_indented :
    let lines := ["# Titre", ":::info", "note", "", ":::", "| a | b |", "|---|---|", "| c |",
      "- un", "- deux"].map String.toList
    let report := Text.joinLines lines
    let indented := Text.joinLines (lines.map fun line =>
      "\t\u00A0 ".toList ++ line ++ " \u2028\r".toList)
    Text.SameButMargins report indented ∧
      (∀ line ∈ Text.lines report, (Text.trim line).head? ≠ some '\uFEFF') ∧
      Html.render (Body.ofText indented).pieces = Html.render (Body.ofText report).pieces ∧
      (Body.ofText indented).sections = (Body.ofText report).sections := by
  intro lines report indented
  have same : Text.SameButMargins report indented :=
    Text.sameButMargins_iff.mpr (by decide +kernel)
  have unmarked : ∀ line ∈ Text.lines report, (Text.trim line).head? ≠ some '\uFEFF' := by
    decide +kernel
  exact ⟨same, unmarked, render_eq_of_sameButMargins same unmarked⟩

-- a blank before the byte order mark keeps it in the text, where it hides the title
example :
    (Body.ofText "\uFEFF# Titre".toList).sections = [⟨1, "Titre".toList⟩] ∧
      (Body.ofText " \uFEFF# Titre".toList).sections = [] := by
  decide +kernel

end EnergyReport.Markup
