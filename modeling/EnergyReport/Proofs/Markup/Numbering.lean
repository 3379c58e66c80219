import EnergyReport.Proofs.Markup.Reading

namespace EnergyReport.Markup

/-! The sections of a report are its titles, counted from one. A title is a heading of the first
level outside of callouts. -/

def Element.title? : Element → Option Text
  | .line (.title title) _ => some title
  | _ => none

/-- The titles of a report in their order. -/
def titles (text : Text) : List Text :=
  (Grammar.elements (Text.lines (dropByteOrderMark text))).filterMap Element.title?

/-- The sections of some titles that `count` sections precede. -/
def Section.numberedFrom : Nat → List Text → List Section
  | _, [] => []
  | count, title :: rest => following count title :: numberedFrom (count + 1) rest

namespace Section

@[simp] theorem map_title_numberedFrom (count : Nat) (titles : List Text) :
    (numberedFrom count titles).map title = titles := by
  induction titles generalizing count with
  | nil => rfl
  | cons title rest ih => simp [numberedFrom, following, ih]

/-- As long as the numbers suffice, they are consecutive. -/
theorem map_number_numberedFrom {count : Nat} {titles : List Text}
    (suffice : count + titles.length ≤ greatestNumber) :
    (numberedFrom count titles).map number = List.range' (count + 1) titles.length := by
  induction titles generalizing count with
  | nil => rfl
  | cons title rest ih =>
      rw [List.length_cons] at suffice
      have next : (following count title).number = count + 1 := Nat.min_eq_left (by omega)
      rw [numberedFrom, List.map_cons, next, ih (by omega), List.length_cons, List.range'_succ]

theorem numberedFrom_append (count : Nat) (first second : List Text) :
    numberedFrom count (first ++ second) =
      numberedFrom count first ++ numberedFrom (count + first.length) second := by
  induction first generalizing count with
  | nil => rfl
  | cons title rest ih =>
      simp only [List.cons_append, numberedFrom, ih, List.length_cons]
      congr 3
      omega

end Section

namespace Grammar

theorem countP_isTitle (parts : List Element) :
    parts.countP Element.isTitle = (parts.filterMap Element.title?).length := by
  rw [List.length_filterMap_eq_countP]
  congr 1
  funext element
  unfold Element.isTitle Element.title?
  split <;> simp_all

theorem title?_of_joins {first second : Element} (joins : Element.joins first second) :
    first.title? = none ∧ second.title? = none := by
  unfold Element.joins at joins
  split at joins
  · exact ⟨rfl, rfl⟩
  · exact ⟨rfl, rfl⟩
  · contradiction

/-- Only the first element of a run may be a title, and then it is the whole run. -/
theorem titles_of_isChain {first : Element} {rest : List Element}
    (chain : (first :: rest).IsChain fun one next => Element.joins one next) :
    (first :: rest).filterMap Element.title? = first.title?.toList := by
  induction rest generalizing first with
  | nil => cases found : first.title? <;> simp [found]
  | cons second rest ih =>
      -- titles join with nothing, so that a run with a second element has none
      obtain ⟨joins, following⟩ := List.isChain_cons_cons.mp chain
      obtain ⟨none, noneNext⟩ := title?_of_joins joins
      rw [List.filterMap_cons_none none, ih following, none, noneNext]

theorem sections_runBlocks (count : Nat) {run : List Element} (nonempty : run ≠ [])
    (chain : run.IsChain fun one next => Element.joins one next) :
    (runBlocks count run).filterMap Block.section? =
      Section.numberedFrom count (run.filterMap Element.title?) := by
  obtain ⟨first, rest, rfl⟩ := List.exists_cons_of_ne_nil nonempty
  rw [titles_of_isChain chain]
  cases first with
  | callout kind lines => rfl
  | line kind text => cases kind <;> rfl

/-- The sections among the blocks of some runs are the titles of the runs. -/
theorem sections_blocksFrom (count : Nat) {parts : List (List Element)}
    (areRuns : ∀ run ∈ parts, run ≠ [] ∧ run.IsChain fun one next => Element.joins one next) :
    (blocksFrom count parts).filterMap Block.section? =
      Section.numberedFrom count (parts.flatten.filterMap Element.title?) := by
  induction parts generalizing count with
  | nil => rfl
  | cons run rest ih =>
      obtain ⟨⟨nonempty, chain⟩, others⟩ := List.forall_mem_cons.mp areRuns
      rw [blocksFrom, List.filterMap_append, sections_runBlocks count nonempty chain,
        ih _ others, countP_isTitle, List.flatten_cons, List.filterMap_append,
        Section.numberedFrom_append]

end Grammar

/-- The sections of a report are its titles, in their order and counted from one. -/
theorem Body.sections_ofText (text : Text) :
    (Body.ofText text).sections = Section.numberedFrom 0 (titles text) := by
  rw [Body.sections, Body.blocks_ofText, Grammar.blocks, Grammar.sections_blocksFrom]
  · rw [Grammar.runs, List.flatten_splitBy, titles]
  · intro run member
    exact ⟨List.ne_nil_of_mem_splitBy member, List.isChain_of_mem_splitBy member⟩

theorem Body.length_sections (text : Text) :
    (Body.ofText text).sections.length = (titles text).length := by
  have same := congrArg List.length (Section.map_title_numberedFrom 0 (titles text))
  rwa [List.length_map, ← Body.sections_ofText] at same

end EnergyReport.Markup
