import EnergyReport.Proofs.Json.Reader
import EnergyReport.Proofs.Number.Whole
import EnergyReport.Proofs.Report.Insertion

namespace EnergyReport.Report

/-! What is read from the lines that are put into a report: the values that were found in it. -/

open Markup (Directive)

/-- A line is the directive of an energy label with a ladder for each grade that a text tells. -/
structure ShowsGrades (text line : Text) (directive : Directive) (energy : Chart.Grade)
    (emissions : Option Chart.Grade) : Prop where
  trimmed : Text.trim line = line
  read : Directive.ofLine? line = some directive
  kind : directive.kind = .energyLabel
  pieces : directive.pieces =
    Html.element "div"
      [("class", "chart-wrap"), ("style", "display:flex;gap:24px;flex-wrap:wrap")]
      (Chart.Ladder.pieces energy Chart.energyTitle ++
        emissions.toList.flatMap fun grade => Chart.Ladder.pieces grade Chart.emissionsTitle)
  isEnergy : (Injection.energyLetter? text).map Char.toUpper = some energy.letter
  isEmissions :
    (Injection.emissionsLetter? text).map Char.toUpper = emissions.map Chart.Grade.letter

/-- The percentages above zero that an analysis tells, in the order of the categories. -/
def weights (analysis : Text) : List (Chart.LossEntry Float) :=
  Injection.lossKeywords.filterMap fun (category, keyword) =>
    (Injection.percentage? keyword analysis).bind fun value =>
      if 0 < value then some ⟨category, Float.ofNat value⟩ else none

/-- A line is the directive of a loss chart with a wedge for each percentage above zero that an
analysis tells. -/
structure ShowsLosses (analysis line : Text) (directive : Directive)
    (members : List (Text × Json)) : Prop where
  trimmed : Text.trim line = line
  read : Directive.ofLine? line = some directive
  kind : directive.kind = .losses
  payload : Json.read directive.payload = some (.object members)
  several : 2 ≤ members.length
  distinct : (members.map Prod.fst).Nodup
  entries : Chart.Losses.ofJson (.object members) = weights analysis
  pieces : directive.pieces = Chart.Losses.pieces (weights analysis)

/-! ### The energy label -/

theorem ladder_ne_nil (grade : Chart.Grade) (title : String) :
    Chart.Ladder.pieces grade title ≠ [] := by
  simp [Chart.Ladder.pieces, Html.element]

theorem ladderFor_letter (grade : Chart.Grade) (title : String) :
    Chart.ladderFor title (some [grade.letter]) = Chart.Ladder.pieces grade title := by
  simp [Chart.ladderFor, Chart.Grade.ofText?, Chart.Grade.ofLetter?_letter]

namespace Injection

variable {text line : Text}

theorem writable_gradeValue {letter : Char} (isLetter : Chart.Grade.isLetter letter) :
    (gradeValue letter).Writable := by
  obtain ⟨grade, capital⟩ := Chart.Grade.exists_of_isLetter isLetter
  rw [gradeValue, capital]
  cases grade <;> decide

theorem read_writeObject_gradeMembers {energy : Char} {emissions : Option Char}
    (isLetter : Chart.Grade.isLetter energy)
    (areLetters : ∀ letter ∈ emissions, Chart.Grade.isLetter letter) :
    Json.read (Json.writeObject (gradeMembers energy emissions)) =
      some (.object ((gradeMembers energy emissions).map Json.memberOf)) := by
  have keys : Chart.energyKey.all Json.isVerbatim ∧ Chart.emissionsKey.all Json.isVerbatim := by
    decide
  simp only [List.all_eq_true] at keys
  have first : Json.WritableMember (Chart.energyKey, gradeValue energy) :=
    ⟨keys.1, writable_gradeValue isLetter⟩
  cases emissions with
  | none =>
      exact Json.read_writeObject (List.forall_mem_singleton.mpr first) (by simp [gradeMembers])
  | some letter =>
      have second : Json.WritableMember (Chart.emissionsKey, gradeValue letter) :=
        ⟨keys.2, writable_gradeValue (areLetters letter rfl)⟩
      have apart : Chart.energyKey ≠ Chart.emissionsKey := by decide
      refine Json.read_writeObject ?_ (by simpa [gradeMembers] using apart)
      exact List.forall_mem_cons.mpr ⟨first, List.forall_mem_singleton.mpr second⟩

/-- The label of a payload has a ladder for each grade in it. -/
theorem energyLabelOf_gradeMembers {energy : Char} {emissions : Option Char} {grade : Chart.Grade}
    {other : Option Chart.Grade} (capital : energy.toUpper = grade.letter)
    (otherCapital : emissions.map Char.toUpper = other.map Chart.Grade.letter) :
    Chart.energyLabelOf (.object ((gradeMembers energy emissions).map Json.memberOf)) =
      Html.element "div"
        [("class", "chart-wrap"), ("style", "display:flex;gap:24px;flex-wrap:wrap")]
        (Chart.Ladder.pieces grade Chart.energyTitle ++
          other.toList.flatMap fun grade => Chart.Ladder.pieces grade Chart.emissionsTitle) := by
  have label : Chart.energyLabelOf (.object ((gradeMembers energy emissions).map Json.memberOf)) =
      Chart.energyLabel (some [grade.letter]) (other.map fun grade => [grade.letter]) := by
    cases emissions with
    | none =>
        cases other with
        | none =>
            rw [← capital]
            rfl
        | some => contradiction
    | some letter =>
        cases other with
        | none => contradiction
        | some other =>
            rw [← capital, Option.map_some, ← Option.some.inj otherCapital]
            rfl
  rw [label, Chart.energyLabel, ladderFor_letter, if_neg (by simp [ladder_ne_nil])]
  cases other <;> simp [Chart.ladderFor, Chart.Grade.ofText?, Chart.Grade.ofLetter?_letter]

theorem showsGrades_of_energyDirective (found : energyDirective? text = some line) :
    ∃ directive energy emissions, ShowsGrades text line directive energy emissions := by
  obtain ⟨letter, energy, isLine⟩ := isDirectiveLine_of_energyDirective found
  have isLetter := isLetter_of_energyLetter energy
  obtain ⟨grade, capital⟩ := Chart.Grade.exists_of_isLetter isLetter
  have payload := read_writeObject_gradeMembers isLetter
    fun letter (told : emissionsLetter? text = some letter) => isLetter_of_emissionsLetter told
  obtain ⟨other, otherCapital⟩ : ∃ other : Option Chart.Grade,
      (emissionsLetter? text).map Char.toUpper = other.map Chart.Grade.letter := by
    cases emissions : emissionsLetter? text with
    | none => exact ⟨none, rfl⟩
    | some letter =>
        obtain ⟨other, capital⟩ :=
          Chart.Grade.exists_of_isLetter (isLetter_of_emissionsLetter emissions)
        exact ⟨some other, congrArg some capital⟩
  refine ⟨_, grade, other, isLine.trimmed, isLine.read, rfl, ?_, ?_, otherCapital⟩
  · rw [← energyLabelOf_gradeMembers capital otherCapital]
    simp only [Directive.pieces, payload]
    rfl
  · rw [energy, Option.map_some, capital]

/-! ### The loss chart -/

variable {analysis : Text}

theorem lt_of_percentage {keyword : List Text} {value : Nat}
    (found : percentage? keyword analysis = some value) : value < percentageLimit := by
  simp only [percentage?, Option.bind_eq_bind, Option.bind_eq_some_iff] at found
  obtain ⟨_, _, number, _, fits⟩ := found
  split at fits
  · rename_i small
    cases fits
    exact small
  · contradiction

theorem lt_of_mem_percentages {found : Chart.LossCategory × Nat}
    (member : found ∈ percentages analysis) : found.2 < percentageLimit := by
  obtain ⟨_, _, told⟩ := List.mem_filterMap.mp member
  obtain ⟨value, isValue, rfl⟩ := Option.map_eq_some_iff.mp told
  exact lt_of_percentage isValue

theorem categories_sublist (keywords : List (Chart.LossCategory × List Text)) :
    ((keywords.filterMap fun (category, keyword) =>
      (percentage? keyword analysis).map (category, ·)).map Prod.fst).Sublist
      (keywords.map Prod.fst) := by
  induction keywords with
  | nil => exact .slnil
  | cons first others ih =>
      cases told : percentage? first.2 analysis with
      | none => simpa [told] using ih.cons first.1
      | some value => simpa [told] using ih.cons_cons first.1

theorem nodup_lossMembers (analysis : Text) :
    ((lossMembers (percentages analysis)).map Prod.fst).Nodup := by
  have keys : ((lossKeywords.map Prod.fst).map Chart.LossCategory.key).Nodup := by decide
  have same : (lossMembers (percentages analysis)).map Prod.fst =
      ((percentages analysis).map Prod.fst).map Chart.LossCategory.key := by
    simp [lossMembers]
  rw [same]
  exact keys.sublist ((categories_sublist lossKeywords).map _)

theorem read_writeObject_lossMembers (analysis : Text) :
    Json.read (Json.writeObject (lossMembers (percentages analysis))) =
      some (.object ((lossMembers (percentages analysis)).map Json.memberOf)) := by
  have key (category : Chart.LossCategory) : category.key.all Json.isVerbatim := by
    cases category <;> decide
  refine Json.read_writeObject (fun member listed => ?_) (nodup_lossMembers analysis)
  obtain ⟨found, among, rfl⟩ := List.mem_map.mp listed
  exact ⟨List.all_eq_true.mp (key found.1), lt_of_mem_percentages among⟩

theorem entry?_ofNat (category : Chart.LossCategory) {value : Nat}
    (fits : value < percentageLimit) :
    Chart.Losses.entry? category.key (Float.ofNat value) =
      if 0 < value then some ⟨category, Float.ofNat value⟩ else none := by
  have named : Chart.LossCategory.ofKey? category.key = some category := by
    cases category <;> decide
  simp [Chart.Losses.entry?, named, Number.isFinite_ofNat fits, Number.zero_lt_ofNat_iff fits]

theorem ofJson_object (members : List (Text × Json)) :
    Chart.Losses.ofJson (.object members) = members.filterMap fun member =>
      (Chart.Losses.weightOf? member.2).bind (Chart.Losses.entry? member.1) := by
  rw [Chart.Losses.ofJson, Chart.Losses.ofPairs, List.filterMap_filterMap]
  refine List.filterMap_congr fun member _ => ?_
  exact Option.bind_map

theorem ofJson_lossMembers (analysis : Text) :
    Chart.Losses.ofJson (.object ((lossMembers (percentages analysis)).map Json.memberOf)) =
      weights analysis := by
  have entries : ∀ found ∈ percentages analysis,
      Chart.Losses.entry? found.1.key (Float.ofNat found.2) =
        if 0 < found.2 then some ⟨found.1, Float.ofNat found.2⟩ else none :=
    fun found among => entry?_ofNat found.1 (lt_of_mem_percentages among)
  rw [ofJson_object, lossMembers, List.map_map, List.filterMap_map]
  refine (List.filterMap_congr entries).trans ?_
  rw [percentages, List.filterMap_filterMap, weights]
  refine List.filterMap_congr fun found _ => ?_
  obtain ⟨category, keyword⟩ := found
  exact Option.bind_map

theorem showsLosses_of_lossDirective (found : lossDirective? analysis = some line) :
    ∃ directive members, ShowsLosses analysis line directive members := by
  obtain ⟨several, rfl⟩ := lossDirective?_eq_some_iff.mp found
  have isLine := isDirectiveLine_writeLosses (percentages analysis)
  have payload := read_writeObject_lossMembers analysis
  have entries := ofJson_lossMembers analysis
  refine ⟨_, _, isLine.trimmed, isLine.read, rfl, payload, ?_, ?_, entries, ?_⟩
  · rwa [List.length_map, lossMembers, List.length_map]
  · rw [List.map_map]
    exact nodup_lossMembers analysis
  · simp only [Directive.pieces, payload, ← entries]
    rfl

end Injection

/-- Every line that is put into a report is read as the directive that it was written from. The
label shows the grades that the text tells, and the loss chart the percentages above zero. -/
theorem injectCharts_lines (text : Text) :
    ((Injection.energyInsertion? text = none ∧ Injection.addEnergyLabel text = text) ∨
      ∃ place directive energy emissions, Injection.energyInsertion? text = some place ∧
        place.source = text ∧ place.result = Injection.addEnergyLabel text ∧
        ShowsGrades text place.line directive energy emissions) ∧
    ((Injection.lossInsertion? (Injection.addEnergyLabel text) = none ∧
        injectCharts text = Injection.addEnergyLabel text) ∨
      ∃ place before rest directive members,
        Injection.lossInsertion? (Injection.addEnergyLabel text) = some place ∧
        place.source = Injection.addEnergyLabel text ∧ place.result = injectCharts text ∧
        Text.cut? Injection.lossHeading (Injection.addEnergyLabel text) = some (before, rest) ∧
        ShowsLosses (Injection.analysisOf rest) place.line directive members) := by
  constructor
  · cases found : Injection.energyInsertion? text with
    | none => exact .inl ⟨rfl, Injection.addEnergyLabel_of_none found⟩
    | some place =>
        obtain ⟨_, fits⟩ := Injection.fits_of_energyInsertion found
        obtain ⟨directive, energy, emissions, shows⟩ :=
          Injection.showsGrades_of_energyDirective (Injection.line_of_energyInsertion found)
        exact .inr ⟨place, directive, energy, emissions, rfl, fits.source, fits.result, shows⟩
  · cases found : Injection.lossInsertion? (Injection.addEnergyLabel text) with
    | none => exact .inl ⟨rfl, Injection.addLossChart_of_none found⟩
    | some place =>
        obtain ⟨_, fits⟩ := Injection.fits_of_lossInsertion found
        obtain ⟨before, rest, line, cut, isLine, rfl⟩ :=
          Injection.lossInsertion?_eq_some_iff.mp found
        obtain ⟨directive, members, shows⟩ := Injection.showsLosses_of_lossDirective isLine
        exact .inr ⟨_, before, rest, directive, members, rfl, fits.source, fits.result, cut,
          shows⟩

end EnergyReport.Report
