import EnergyReport.Proofs.Chart.Grade
import EnergyReport.Proofs.Json.Writer
import EnergyReport.Proofs.Markup.Directive
import EnergyReport.Report.Injection
import Mathlib.Data.List.Chain
import Mathlib.Data.List.TakeWhile

namespace EnergyReport.Report

/-! Where directives are put into a report, and what the lines that are put there look like. -/

/-- A line that is put below another. -/
structure Insertion where
  /-- The text up to the end of the line above. -/
  upTo : Text
  line : Text
  /-- What follows the line above, where that line is ended. -/
  rest : Option Text
  deriving Repr, DecidableEq

namespace Insertion

def source (place : Insertion) : Text :=
  match place.rest with
  | some rest => place.upTo ++ '\n' :: rest
  | none => place.upTo

def result (place : Insertion) : Text :=
  place.upTo ++ '\n' :: place.line ++ '\n' :: place.rest.getD []

/-- What follows the line above, with the end of that line. -/
def tail (place : Insertion) : Text :=
  match place.rest with
  | some rest => '\n' :: rest
  | none => []

/-- The line end that is added after the last line. -/
def ending (place : Insertion) : Text :=
  match place.rest with
  | some _ => []
  | none => ['\n']

variable (place : Insertion)

theorem source_eq : place.source = place.upTo ++ place.tail := by
  cases rest : place.rest <;> simp [source, tail, rest]

theorem result_eq :
    place.result = place.upTo ++ '\n' :: place.line ++ (place.tail ++ place.ending) := by
  cases rest : place.rest <;> simp [result, tail, ending, rest]

theorem exists_tail_append_ending : ∃ rest, place.tail ++ place.ending = '\n' :: rest := by
  cases rest : place.rest <;> simp [tail, ending, rest]

theorem ending_eq : place.ending = [] ∨ place.ending = ['\n'] := by
  cases rest : place.rest <;> simp [ending, rest]

end Insertion

/-- A word that ends with e does not end between two characters. -/
abbrev Continues (c next : Char) : Prop :=
  Text.foldCase c = 'e' → Text.isBlank next = false

/-- No word of a line ends with e, as those of the phrase for the energy grade do. -/
def Quiet (line : Text) : Prop :=
  (line ++ ['\n']).IsChain Continues

/-- A line that is put into a report: a directive on a line of its own, in which no figure is
found and no cell ends. -/
structure IsDirectiveLine (line : Text) (directive : Markup.Directive) : Prop where
  trimmed : Text.trim line = line
  oneLine : '\n' ∉ line
  barless : '|' ∉ line
  quiet : Quiet line
  read : Markup.Directive.ofLine? line = some directive

/-- The line of a directive is put into a text at a place that is not its beginning. -/
structure Insertion.Fits (place : Insertion) (text result : Text) (directive : Markup.Directive) :
    Prop where
  source : place.source = text
  result : place.result = result
  nonempty : place.upTo ≠ []
  line : IsDirectiveLine place.line directive

namespace Injection

def isSolid (c : Char) : Bool :=
  !Text.isBlank c && c ≠ '|'

def areSolid (members : List (Text × Json.Scalar)) : Bool :=
  members.all fun member => member.1.all isSolid && member.2.content.all isSolid

theorem isSolid_of_mem_writeObject {members : List (Text × Json.Scalar)}
    (solid : areSolid members) : ∀ c ∈ Json.writeObject members, isSolid c := by
  intro c written
  rcases Json.mem_writeObject written with mark | ⟨member, listed, inMember⟩
  · have marks : Json.punctuation.all isSolid := by decide
    exact List.all_eq_true.mp marks c mark
  · have parts := List.all_eq_true.mp solid member listed
    simp only [Bool.and_eq_true, List.all_eq_true] at parts
    exact inMember.elim (parts.1 c) (parts.2 c)

theorem isSolid_of_isDigit {c : Char} (isDigit : c.isDigit) : isSolid c := by
  have range := Text.toNat_of_isDigit isDigit
  have notBar : c ≠ '|' := by
    rintro rfl
    contradiction
  have dark : Text.isBlank c = false := by
    simp only [Text.isBlank, Bool.or_eq_false_iff, Bool.and_eq_false_iff, decide_eq_false_iff_not,
      beq_eq_false_iff_ne]
    omega
  simp [isSolid, dark, notBar]

/-- The line of a directive is linked where the characters of its name and its payload may stand
behind any other. -/
theorem isChain_write {Linked : Char → Char → Prop} {name payload : Text}
    (anywhere : ∀ c ∈ Markup.Directive.namePart ++ name ++ ':' :: payload, ∀ before,
      Linked before c)
    (closes : payload.getLast? = some '\x7d') (opening : "<!-- ".toList.IsChain Linked)
    (closing : "\x7d -->\n".toList.IsChain Linked) :
    (Markup.Directive.write name payload ++ ['\n']).IsChain Linked := by
  obtain ⟨inside, rfl⟩ := List.getLast?_eq_some_iff.mp closes
  obtain ⟨body, isBody⟩ : ∃ body, body = Markup.Directive.namePart ++ name ++ ':' :: inside :=
    ⟨_, rfl⟩
  have parts : Markup.Directive.write name (inside ++ ['\x7d']) ++ ['\n'] =
      "<!-- ".toList ++ (body ++ "\x7d -->\n".toList) := by
    simp [Markup.Directive.write, Markup.Directive.commentStart, Markup.Directive.commentEnd,
      isBody]
  have whole : Markup.Directive.namePart ++ name ++ ':' :: (inside ++ ['\x7d']) =
      body ++ ['\x7d'] := by
    simp [isBody]
  rw [whole] at anywhere
  have linked : body.IsChain Linked := by
    refine (List.pairwise_of_forall_mem_list fun c _ next member => ?_).isChain
    exact anywhere next (List.mem_append_left _ member) c
  rw [parts]
  refine opening.append (linked.append closing ?_) ?_
  · intro c _ next first
    have brace : "\x7d -->\n".toList.head? = some '\x7d' := rfl
    rw [brace] at first
    cases first
    exact anywhere _ (by simp) c
  · intro c _ next first
    have namePart : body.head? = some 'c' := by
      rw [isBody]
      rfl
    rw [List.head?_append, namePart] at first
    cases first
    exact anywhere _ (List.mem_append_left _ (List.mem_of_head? namePart)) c

theorem isSolid_of_mem_body {name payload : Text} (solidName : ∀ c ∈ name, isSolid c)
    (solid : ∀ c ∈ payload, isSolid c) :
    ∀ c ∈ Markup.Directive.namePart ++ name ++ ':' :: payload, isSolid c := by
  have fixed : (Markup.Directive.namePart ++ [':']).all isSolid := by decide
  have fixed := List.all_eq_true.mp fixed
  intro c member
  simp only [List.mem_append, List.mem_cons] at member
  rcases member with (inPart | inName) | colon | inPayload
  · exact fixed c (List.mem_append_left _ inPart)
  · exact solidName c inName
  · exact fixed c (by simp [colon])
  · exact solid c inPayload

theorem isBlank_of_isSolid {c : Char} (solid : isSolid c) : Text.isBlank c = false := by
  simp only [isSolid, Bool.and_eq_true, Bool.not_eq_true'] at solid
  exact solid.1

theorem quiet_write {name payload : Text} (solidName : ∀ c ∈ name, isSolid c)
    (solid : ∀ c ∈ payload, isSolid c) (closes : payload.getLast? = some '\x7d') :
    Quiet (Markup.Directive.write name payload) := by
  refine isChain_write (fun c member before _ => ?_) closes (by decide) (by decide)
  exact isBlank_of_isSolid (isSolid_of_mem_body solidName solid c member)

theorem isDirectiveLine_write {name : Text} {members : List (Text × Json.Scalar)}
    (named : name ≠ []) (word : name.all Text.isWord) (solidName : name.all isSolid)
    (solid : areSolid members) :
    IsDirectiveLine (Markup.Directive.write name (Json.writeObject members))
      ⟨.ofName name, Json.writeObject members⟩ := by
  have inName := List.all_eq_true.mp solidName
  have inPayload := isSolid_of_mem_writeObject solid
  have absent {text : Text} {c : Char} (all : ∀ c ∈ text, isSolid c) (hollow : isSolid c = false) :
      c ∉ text := by
    intro member
    rw [all c member] at hollow
    contradiction
  have newline : isSolid '\n' = false := by decide
  have bar : isSolid '|' = false := by decide
  refine ⟨Markup.Directive.trim_write _ _, ?_, ?_, ?_, ?_⟩
  · exact Markup.Directive.newline_not_mem_write (absent inName newline) (absent inPayload newline)
  · simp [Markup.Directive.write, Markup.Directive.commentStart, Markup.Directive.commentEnd,
      Markup.Directive.namePart, absent inName bar, absent inPayload bar]
  · exact quiet_write inName inPayload (Json.getLast?_writeObject members)
  · exact Markup.Directive.ofLine_write named (List.all_eq_true.mp word)
      (Json.trim_writeObject members) (absent inPayload newline)

/-- The members of the payload for two grade letters; the second one may be missing. -/
def gradeMembers (energy : Char) (emissions : Option Char) : List (Text × Json.Scalar) :=
  (Chart.energyKey, gradeValue energy) ::
    match emissions with
    | some letter => [(Chart.emissionsKey, gradeValue letter)]
    | none => []

theorem energyDirective?_eq_some_iff {text line : Text} :
    energyDirective? text = some line ↔
      ∃ letter, energyLetter? text = some letter ∧
        Markup.Directive.write Markup.energyLabelName
          (Json.writeObject (gradeMembers letter (emissionsLetter? text))) = line := by
  simp only [energyDirective?, Option.map_eq_some_iff]
  rfl

theorem isLetter_of_energyLetter {text : Text} {letter : Char}
    (found : energyLetter? text = some letter) : Chart.Grade.isLetter letter := by
  obtain ⟨_, place, _, there⟩ := Text.exists_place_of_firstMatch found
  simp only [Option.bind_eq_bind, Option.bind_eq_some_iff] at there
  obtain ⟨_, _, _, _, leading⟩ := there
  exact (Chart.Grade.leadingLetter?_eq_some_iff.mp leading).1

theorem isLetter_of_emissionsLetter {text : Text} {letter : Char}
    (found : emissionsLetter? text = some letter) : Chart.Grade.isLetter letter := by
  obtain ⟨_, place, _, there⟩ := Text.exists_place_of_firstMatch found
  simp only [Option.bind_eq_bind, Option.bind_eq_some_iff] at there
  obtain ⟨_, _, _, _, leading⟩ := there
  exact (Chart.Grade.leadingLetter?_eq_some_iff.mp leading).1

theorem areSolid_gradeMembers {energy : Char} {emissions : Option Char}
    (isLetter : Chart.Grade.isLetter energy)
    (areLetters : ∀ letter ∈ emissions, Chart.Grade.isLetter letter) :
    areSolid (gradeMembers energy emissions) := by
  have value {letter : Char} (isLetter : Chart.Grade.isLetter letter) :
      (gradeValue letter).content.all isSolid := by
    obtain ⟨grade, capital⟩ := Chart.Grade.exists_of_isLetter isLetter
    rw [gradeValue, capital]
    cases grade <;> decide
  have keys : Chart.energyKey.all isSolid ∧ Chart.emissionsKey.all isSolid := by decide
  cases emissions with
  | none => simp [areSolid, gradeMembers, keys, value isLetter]
  | some letter =>
      simp [areSolid, gradeMembers, keys, value isLetter, value (areLetters letter rfl)]

theorem isDirectiveLine_of_energyDirective {text line : Text}
    (found : energyDirective? text = some line) :
    ∃ letter, energyLetter? text = some letter ∧
      IsDirectiveLine line ⟨.ofName Markup.energyLabelName,
        Json.writeObject (gradeMembers letter (emissionsLetter? text))⟩ := by
  obtain ⟨letter, energy, rfl⟩ := energyDirective?_eq_some_iff.mp found
  have word : Markup.energyLabelName.all Text.isWord := by decide +kernel
  exact ⟨letter, energy, isDirectiveLine_write (by decide) word (by decide)
    (areSolid_gradeMembers (isLetter_of_energyLetter energy)
      fun _ emissions => isLetter_of_emissionsLetter emissions)⟩

/-- The members of the payload for the percentages that are found. -/
def lossMembers (found : List (Chart.LossCategory × Nat)) : List (Text × Json.Scalar) :=
  found.map fun (category, value) => (category.key, .natural value)

theorem lossDirective?_eq_some_iff {analysis line : Text} :
    lossDirective? analysis = some line ↔
      leastPercentages ≤ (percentages analysis).length ∧
        Markup.Directive.write Markup.lossesName
          (Json.writeObject (lossMembers (percentages analysis))) = line := by
  simp only [lossDirective?]
  split
  · simp only [reduceCtorEq, false_iff]
    omega
  · simp only [Option.some.injEq]
    exact ⟨fun same => ⟨by omega, same⟩, fun parts => parts.2⟩

theorem areSolid_lossMembers (found : List (Chart.LossCategory × Nat)) :
    areSolid (lossMembers found) := by
  have key (category : Chart.LossCategory) : category.key.all isSolid := by
    cases category <;> decide
  have digits (value : Nat) : (Nat.toDigits 10 value).all isSolid := by
    rw [List.all_eq_true]
    intro c member
    exact isSolid_of_isDigit (Nat.isDigit_of_mem_toDigits (by decide) (by decide) member)
  simp [areSolid, lossMembers, key, digits, Json.Scalar.content]

/-- The line of the loss chart holds no mark of a heading and no percent sign. -/
theorem not_mem_writeLosses (found : List (Chart.LossCategory × Nat)) :
    '#' ∉ Markup.Directive.write Markup.lossesName (Json.writeObject (lossMembers found)) ∧
      '%' ∉ Markup.Directive.write Markup.lossesName (Json.writeObject (lossMembers found)) := by
  have absent {c : Char} (notDigit : c.isDigit = false)
      (frame : c ∉ Markup.Directive.write Markup.lossesName [] ∧ c ∉ Json.punctuation)
      (keys : ∀ category ∈ Chart.LossCategory.all, c ∉ category.key) :
      c ∉ Markup.Directive.write Markup.lossesName (Json.writeObject (lossMembers found)) := by
    have payload : c ∉ Json.writeObject (lossMembers found) := by
      intro written
      rcases Json.mem_writeObject written with mark | ⟨member, listed, inKey | inValue⟩
      · exact frame.2 mark
      · obtain ⟨⟨category, _⟩, _, rfl⟩ := List.mem_map.mp listed
        exact keys category (by cases category <;> decide) inKey
      · obtain ⟨_, _, rfl⟩ := List.mem_map.mp listed
        have isDigit := Nat.isDigit_of_mem_toDigits (by decide) (by decide) inValue
        simp [notDigit] at isDigit
    simpa [Markup.Directive.write, payload] using frame.1
  exact ⟨absent (by decide) (by decide) (by decide), absent (by decide) (by decide) (by decide)⟩

theorem isDirectiveLine_writeLosses (found : List (Chart.LossCategory × Nat)) :
    IsDirectiveLine
      (Markup.Directive.write Markup.lossesName (Json.writeObject (lossMembers found)))
      ⟨.ofName Markup.lossesName, Json.writeObject (lossMembers found)⟩ := by
  have word : Markup.lossesName.all Text.isWord := by decide +kernel
  exact isDirectiveLine_write (by decide) word (by decide) (areSolid_lossMembers found)

theorem isDirectiveLine_of_lossDirective {analysis line : Text}
    (found : lossDirective? analysis = some line) :
    ∃ directive, IsDirectiveLine line directive := by
  obtain ⟨_, rfl⟩ := lossDirective?_eq_some_iff.mp found
  exact ⟨_, isDirectiveLine_writeLosses _⟩

/-- What the line of the loss heading says. -/
def lossTitle : Text := "# Analyse des déperditions".toList

/-- Where the directive of the energy label is put. -/
def energyInsertion? (text : Text) : Option Insertion :=
  match energyDirective? text, Text.cut? scoreHeading text with
  | some directive, some (before, after) =>
      let lineRest := after.takeWhile (· ≠ '\n')
      some ⟨before ++ scoreHeading ++ lineRest, directive, (after.drop lineRest.length).tail?⟩
  | _, _ => none

/-- Where the directive of the loss chart is put. -/
def lossInsertion? (text : Text) : Option Insertion :=
  match Text.cut? lossHeading text with
  | none => none
  | some (before, rest) =>
      (lossDirective? (analysisOf rest)).map fun directive =>
        ⟨before ++ lossTitle, directive, some rest⟩

theorem line_of_energyInsertion {text : Text} {place : Insertion}
    (found : energyInsertion? text = some place) : energyDirective? text = some place.line := by
  unfold energyInsertion? at found
  split at found
  · rename_i directive _ _ isDirective _
    cases found
    exact isDirective
  · contradiction

theorem lossInsertion?_eq_some_iff {text : Text} {place : Insertion} :
    lossInsertion? text = some place ↔
      ∃ before rest line, Text.cut? lossHeading text = some (before, rest) ∧
        lossDirective? (analysisOf rest) = some line ∧
        place = ⟨before ++ lossTitle, line, some rest⟩ := by
  unfold lossInsertion?
  constructor
  · intro found
    split at found
    · contradiction
    · rename_i before rest cut
      obtain ⟨line, isLine, rfl⟩ := Option.map_eq_some_iff.mp found
      exact ⟨before, rest, line, cut, isLine, rfl⟩
  · rintro ⟨before, rest, line, cut, isLine, rfl⟩
    simp only [cut, isLine, Option.map_some]

/-- The line above the directive of the loss chart ends with s. -/
theorem exists_upTo_of_lossInsertion {text : Text} {place : Insertion}
    (found : lossInsertion? text = some place) :
    ∃ before rest, place.upTo = before ++ ['s'] ∧ place.rest = some rest := by
  have title : lossTitle = "# Analyse des déperdition".toList ++ ['s'] := by decide
  obtain ⟨before, rest, _, _, _, rfl⟩ := lossInsertion?_eq_some_iff.mp found
  exact ⟨before ++ "# Analyse des déperdition".toList, rest, by simp [title], rfl⟩

theorem insertLine_of_ended (upTo line rest : Text) :
    insertLine (upTo ++ ['\n']) line rest = upTo ++ '\n' :: line ++ '\n' :: rest := by
  simp [insertLine]

theorem insertLine_of_open {upTo : Text} (line : Text) (notEnded : upTo.getLast? ≠ some '\n') :
    insertLine upTo line [] = upTo ++ '\n' :: line ++ ['\n'] := by
  simp [insertLine, notEnded]

theorem addEnergyLabel_of_none {text : Text} (missing : energyInsertion? text = none) :
    addEnergyLabel text = text := by
  unfold energyInsertion? at missing
  unfold addEnergyLabel cutAfterLine?
  split at missing
  · contradiction
  · rename_i none
    cases directive : energyDirective? text with
    | none => rfl
    | some line =>
        cases cut : Text.cut? scoreHeading text with
        | none => rfl
        | some parts => exact absurd cut (none line parts.1 parts.2 directive)

theorem fits_of_energyInsertion {text : Text} {place : Insertion}
    (found : energyInsertion? text = some place) :
    ∃ directive, place.Fits text (addEnergyLabel text) directive := by
  unfold energyInsertion? at found
  split at found
  · rename_i directive before after isDirective cut
    have whole := Text.eq_append_of_cut cut
    obtain ⟨letter, _, line⟩ := isDirectiveLine_of_energyDirective isDirective
    cases found
    have heading : scoreHeading ≠ [] := by decide
    suffices parts : Insertion.source _ = text ∧ Insertion.result _ = addEnergyLabel text from
      ⟨_, parts.1, parts.2, by simp [heading], line⟩
    obtain ⟨lineRest, ended, taken, dropped, parts, oneLine, ends⟩ := Text.exists_line after
    simp only [Insertion.source, Insertion.result, addEnergyLabel, isDirective, cutAfterLine?, cut,
      Option.map_some, taken, dropped]
    rcases ends with rfl | ⟨rest, rfl⟩
    · have notEnded : (before ++ scoreHeading ++ lineRest).getLast? ≠ some '\n' := by
        have title : '\n' ∉ scoreHeading := by decide
        have nonempty : scoreHeading ++ lineRest ≠ [] :=
          List.append_ne_nil_of_left_ne_nil heading lineRest
        rw [List.append_assoc, List.getLast?_append_of_ne_nil _ nonempty]
        intro isLast
        have member := List.mem_of_getLast? isLast
        simp [title, oneLine] at member
      have result := insertLine_of_open directive notEnded
      simp only [List.append_assoc] at result
      simp [result, whole, parts]
    · have result := insertLine_of_ended (before ++ scoreHeading ++ lineRest) directive rest
      simp only [List.append_assoc] at result
      simp [result, whole, parts]
  · contradiction

theorem lossHeading_eq : lossHeading = lossTitle ++ ['\n'] := by
  decide

theorem addLossChart_of_none {text : Text} (missing : lossInsertion? text = none) :
    addLossChart text = text := by
  unfold lossInsertion? at missing
  unfold addLossChart
  cases cut : Text.cut? lossHeading text with
  | none => rfl
  | some parts =>
      simp only [cut, Option.map_eq_none_iff] at missing
      simp only [missing]

theorem fits_of_lossInsertion {text : Text} {place : Insertion}
    (found : lossInsertion? text = some place) :
    ∃ directive, place.Fits text (addLossChart text) directive := by
  obtain ⟨before, rest, directive, cut, isDirective, rfl⟩ := lossInsertion?_eq_some_iff.mp found
  obtain ⟨chart, line⟩ := isDirectiveLine_of_lossDirective isDirective
  have whole := Text.eq_append_of_cut cut
  have title : lossTitle ≠ [] := by decide
  have heading : before ++ lossHeading = before ++ lossTitle ++ ['\n'] := by
    rw [lossHeading_eq, List.append_assoc]
  refine ⟨chart, ?_, ?_, by simp [title], line⟩
  · rw [Insertion.source, whole, heading]
    simp
  · simp only [addLossChart, cut, isDirective, heading, insertLine_of_ended, Insertion.result,
      Option.getD_some]

end Injection

end EnergyReport.Report
