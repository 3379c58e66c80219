import EnergyReport.Markup.Line
import EnergyReport.Proofs.Text.Margin

namespace EnergyReport.Markup

/-! Which lines are directives: those in the form of one, and no others. So a directive that is
written is read back as it was. -/

/-- The charts by the names that ask for them. -/
inductive ChartKind.IsNamed : Text → ChartKind → Prop where
  | losses : IsNamed lossesName .losses
  | energyLabel : IsNamed energyLabelName .energyLabel
  | unknown {name : Text} (noLosses : name ≠ lossesName) (noLabel : name ≠ energyLabelName) :
      IsNamed name (.unknown name)

theorem ChartKind.isNamed_iff {name : Text} {kind : ChartKind} :
    IsNamed name kind ↔ kind = ofName name := by
  constructor
  · intro named
    cases named with
    | losses => rw [ofName, if_pos rfl]
    | energyLabel =>
        have apart : energyLabelName ≠ lossesName := by decide
        rw [ofName, if_neg apart, if_pos rfl]
    | unknown noLosses noLabel => rw [ofName, if_neg noLosses, if_neg noLabel]
  · intro same
    rw [same, ofName]
    split
    · rename_i named
      rw [named]
      exact .losses
    · rename_i noLosses
      split
      · rename_i named
        rw [named]
        exact .energyLabel
      · rename_i noLabel
        exact .unknown noLosses noLabel

namespace Directive

/-- The parts of a line that is a directive. -/
structure Form where
  lead : Text
  name : Text
  before : Text
  payload : Text
  behind : Text
  blankLead : ∀ c ∈ lead, Text.isBlank c
  named : name ≠ []
  word : ∀ c ∈ name, Text.isWord c
  blankBefore : ∀ c ∈ before, Text.isBlank c
  oneLine : '\n' ∉ payload
  darkHead : ∀ c ∈ payload.head?, Text.isBlank c = false
  darkLast : ∀ c ∈ payload.getLast?, Text.isBlank c = false
  blankBehind : ∀ c ∈ behind, Text.isBlank c

def Form.line (form : Form) : Text :=
  commentStart ++ form.lead ++ namePart ++ form.name ++ [':'] ++ form.before ++ form.payload ++
    form.behind ++ commentEnd

variable {name payload : Text}

/-- A line that is written as a directive begins and ends with the signs of a comment. -/
theorem write_eq (name payload : Text) :
    write name payload =
      '<' :: ("!-- ".toList ++ namePart ++ name ++ ':' :: payload ++ " --".toList) ++ ['>'] := by
  simp [write, commentStart, commentEnd, namePart]

theorem trim_write (name payload : Text) : Text.trim (write name payload) = write name payload := by
  rw [write_eq]
  exact Text.trim_of_dark_ends (by decide) (by decide)

theorem newline_not_mem_write (oneWord : '\n' ∉ name) (oneLine : '\n' ∉ payload) :
    '\n' ∉ write name payload := by
  simp [write, commentStart, commentEnd, namePart, oneWord, oneLine]

theorem Form.line_eq (form : Form) :
    form.line = commentStart ++ (form.lead ++ (namePart ++ (form.name ++
      ':' :: (form.before ++ form.payload ++ form.behind ++ commentEnd)))) := by
  simp only [line, List.append_assoc, List.cons_append, List.nil_append]

theorem ofLine_line (form : Form) :
    ofLine? form.line = some ⟨.ofName form.name, form.payload⟩ := by
  have colon : Text.isWord ':' = false := by decide +kernel
  obtain ⟨rest, isRest⟩ : ∃ rest,
      rest = form.before ++ form.payload ++ form.behind ++ commentEnd := ⟨_, rfl⟩
  have comment : Text.strip? commentStart form.line =
      some (form.lead ++ (namePart ++ (form.name ++ ':' :: rest))) := by
    rw [Text.strip?_eq_some_iff, isRest]
    exact form.line_eq
  have chart : Text.strip? namePart
      (Text.trimStart (form.lead ++ (namePart ++ (form.name ++ ':' :: rest)))) =
      some (form.name ++ ':' :: rest) := by
    rw [Text.trimStart_append form.blankLead, Text.strip?_eq_some_iff]
    simp [namePart, Text.trimStart, Text.isBlank]
  have taken : (form.name ++ ':' :: rest).takeWhile Text.isWord = form.name := by
    rw [List.takeWhile_append_of_pos form.word, List.takeWhile_cons_of_neg (by simp [colon]),
      List.append_nil]
  have dropped : (form.name ++ ':' :: rest).dropWhile Text.isWord = ':' :: rest := by
    rw [List.dropWhile_append_of_pos form.word, List.dropWhile_cons_of_neg (by simp [colon])]
  have afterColon : Text.strip? [':'] (':' :: rest) = some rest := by simp [Text.strip?]
  have body : Text.stripEnd? commentEnd rest =
      some (form.before ++ form.payload ++ form.behind) :=
    Text.stripEnd?_eq_some_iff.mpr isRest
  have trimmed : Text.trim (form.before ++ form.payload ++ form.behind) = form.payload := by
    have pads : Text.Pads form.payload (form.before ++ form.payload ++ form.behind) :=
      ⟨form.before, form.behind, form.blankBefore, form.blankBehind, rfl⟩
    exact pads.trim_eq.trans (Text.trim_eq_self_iff.mpr ⟨form.darkHead, form.darkLast⟩)
  have notEmpty : form.name.isEmpty = false := by simp [form.named]
  simp only [ofLine?, Option.bind_eq_bind, comment, chart, taken, dropped, afterColon, body,
    trimmed, Option.bind_some, notEmpty, form.oneLine, if_false, Bool.false_eq_true]
  rfl

theorem exists_form_of_ofLine {line : Text} {directive : Directive}
    (read : ofLine? line = some directive) :
    ∃ form : Form, form.line = line ∧ directive = ⟨.ofName form.name, form.payload⟩ := by
  simp only [ofLine?, Option.bind_eq_bind, Option.bind_eq_some_iff] at read
  obtain ⟨comment, begins, named, chart, read⟩ := read
  split at read
  · contradiction
  · rename_i nonempty
    obtain ⟨rest, colon, read⟩ := Option.bind_eq_some_iff.mp read
    obtain ⟨body, ends, read⟩ := Option.bind_eq_some_iff.mp read
    split at read
    · contradiction
    · rename_i oneLine
      cases read
      rw [Text.strip?_eq_some_iff] at begins chart colon
      rw [Text.stripEnd?_eq_some_iff] at ends
      obtain ⟨lead, blankLead, isComment⟩ := Text.exists_blanks_append_trimStart comment
      obtain ⟨before, behind, blankBefore, blankBehind, isBody⟩ := Text.pads_trim body
      let form : Form :=
        { lead, name := named.takeWhile Text.isWord, before, payload := Text.trim body, behind,
          blankLead, named := by simpa using nonempty,
          word := fun c member => List.all_eq_true.mp List.all_takeWhile c member,
          blankBefore, oneLine, darkHead := Text.isBlank_head?_trim body,
          darkLast := Text.isBlank_getLast?_trim body, blankBehind }
      have isNamed : form.name ++ ':' :: rest = named := by
        rw [← List.singleton_append, ← colon]
        exact List.takeWhile_append_dropWhile
      refine ⟨form, ?_, rfl⟩
      rw [begins, isComment, chart, ← isNamed, ends, isBody, form.line_eq]

/-- A line is a directive exactly where it is in the form of one; the form tells its name and its
payload. -/
theorem ofLine_iff_form (line : Text) (directive : Directive) :
    ofLine? line = some directive ↔
      ∃ form : Form, form.line = line ∧ ChartKind.IsNamed form.name directive.kind ∧
        form.payload = directive.payload := by
  constructor
  · intro read
    obtain ⟨form, isLine, rfl⟩ := exists_form_of_ofLine read
    exact ⟨form, isLine, ChartKind.isNamed_iff.mpr rfl, rfl⟩
  · intro found
    obtain ⟨form, rfl, named, payload⟩ := found
    rw [ofLine_line, payload, ← ChartKind.isNamed_iff.mp named]

-- the payload goes on to the last end of a comment in the line
example :
    ofLine? "<!--\tchart-étiquette_2:\u00A0a --> : b\n-->".toList =
      some ⟨.unknown "étiquette_2".toList, "a --> : b".toList⟩ := by
  decide +kernel

theorem ofLine_write (named : name ≠ []) (word : ∀ c ∈ name, Text.isWord c)
    (trimmed : Text.trim (payload ++ [' ']) = payload) (oneLine : '\n' ∉ payload) :
    ofLine? (write name payload) = some ⟨.ofName name, payload⟩ := by
  rw [Text.trim_append_singleton (by decide)] at trimmed
  obtain ⟨darkHead, darkLast⟩ := Text.trim_eq_self_iff.mp trimmed
  have blank : ∀ c ∈ [' '], Text.isBlank c := List.forall_mem_singleton.mpr rfl
  let form : Form :=
    { lead := [' '], name, before := [], payload, behind := [' '], blankLead := blank, named,
      word, blankBefore := by simp, oneLine, darkHead, darkLast, blankBehind := blank }
  have isLine : form.line = write name payload := by
    simp only [form.line_eq, form, write, List.append_assoc, List.cons_append, List.nil_append]
  rw [← isLine]
  exact ofLine_line form

theorem exists_comment_of_ofLine {line : Text} {directive : Directive}
    (read : ofLine? line = some directive) : ∃ rest, line = '<' :: '!' :: '-' :: '-' :: rest := by
  simp only [ofLine?, Option.bind_eq_bind, Option.bind_eq_some_iff] at read
  obtain ⟨rest, comment, _⟩ := read
  exact ⟨rest, Text.strip?_eq_some_iff.mp comment⟩

end Directive

/-- A line that is a directive is of no other kind. -/
theorem Line.classify_of_ofLine {line : Text} {directive : Directive}
    (read : Directive.ofLine? line = some directive) :
    Line.classify line = .chart directive := by
  obtain ⟨rest, begins⟩ := Directive.exists_comment_of_ofLine read
  have noMarker : Text.strip? [':', ':', ':'] line = none := by
    simp [begins, Text.strip?]
  have noTitle : heading? 1 line = none := by
    simp [begins, heading?, Text.strip?]
  simp [Line.classify, Line.candidates, read, noMarker, noTitle]

end EnergyReport.Markup
