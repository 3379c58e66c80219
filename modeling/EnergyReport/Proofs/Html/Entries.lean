import EnergyReport.Proofs.Html.Tokens

namespace EnergyReport.Html

/-! Entries of a page: elements of one class that show a number and a title, and that have a
name or lead to one. They are found by what the page says, whoever wrote it. -/

/-- Whether an element belongs to a class. -/
def hasClass (name : String) (attributes : List Attribute) : Bool :=
  (attributes.lookup "class").any fun value => name.toList ∈ Text.splitOn ' ' value.toList

/-- How the entries of a page are marked. -/
structure EntryKind where
  /-- The class of an entry. -/
  entry : String
  /-- The attribute with the name of the entry, or with what it leads to. -/
  target : String
  /-- The class of the number in an entry. -/
  number : String
  /-- The class of the title in an entry. -/
  title : String
  apart : [entry, number, title].Nodup := by decide
  blankless : ∀ name ∈ [entry, number, title], ' ' ∉ name.toList := by decide

structure Entry where
  target : Option String
  number : Text
  /-- The title as the page writes it, which is escaped. -/
  title : Text
  deriving Repr, DecidableEq

/-- The characters up to the next tag. -/
def leadingText : List Token → Text
  | .char c :: rest => c :: leadingText rest
  | _ => []

/-- The text at the beginning of the first element of a class. -/
def textOfClass (name : String) : List Token → Text
  | [] => []
  | .tag (.opening _ attributes) :: rest =>
      if hasClass name attributes then leadingText rest else textOfClass name rest
  | _ :: rest => textOfClass name rest

def entries (kind : EntryKind) : List Token → List Entry
  | [] => []
  | .tag (.opening _ attributes) :: rest =>
      if hasClass kind.entry attributes then
        ⟨attributes.lookup kind.target, textOfClass kind.number rest,
            textOfClass kind.title rest⟩ :: entries kind rest
      else entries kind rest
  | _ :: rest => entries kind rest

/-- Whether a token begins an element of a class. -/
def Token.begins (name : String) : Token → Bool
  | .tag (.opening _ attributes) => hasClass name attributes
  | _ => false

/-! ### Where entries are found -/

theorem hasClass_of_blankless {name value : String} (blankless : ' ' ∉ value.toList) :
    hasClass name [("class", value)] = decide (name = value) := by
  simp [hasClass, Text.splitOn_of_not_mem blankless, ← String.toList_inj]

/-- The other attributes do not matter. -/
theorem hasClass_cons (name value : String) (others : List Attribute) :
    hasClass name (("class", value) :: others) = hasClass name [("class", value)] := by
  simp [hasClass]

theorem hasClass_of_classless {name : String} {attributes : List Attribute}
    (classless : ∀ given ∈ attributes, given.1 ≠ "class") : hasClass name attributes = false := by
  have missing : attributes.lookup "class" = none :=
    List.lookup_eq_none_iff.mpr fun given member => by simpa using (classless given member).symm
  simp [hasClass, missing]

theorem leadingText_append_tag (first : List Token) (tag : Tag) (rest : List Token) :
    leadingText (first ++ .tag tag :: rest) = leadingText first := by
  induction first with
  | nil => rfl
  | cons token first ih =>
      cases token with
      | tag other => rfl
      | char c => rw [List.cons_append, leadingText, leadingText, ih]

theorem leadingText_map_char (text : Text) : leadingText (text.map .char) = text := by
  induction text with
  | nil => rfl
  | cons c text ih => rw [List.map_cons, leadingText, ih]

theorem leadingText_chars (text : Text) (tag : Tag) (rest : List Token) :
    leadingText (text.map .char ++ .tag tag :: rest) = text := by
  rw [leadingText_append_tag, leadingText_map_char]

theorem textOfClass_chars (name : String) (text : Text) (rest : List Token) :
    textOfClass name (text.map .char ++ rest) = textOfClass name rest := by
  induction text with
  | nil => rfl
  | cons c text ih => simp [textOfClass, ih]

/-- A piece begins no element of one of some classes. -/
def Piece.IsOutside (classes : List String) (piece : Piece) : Prop :=
  ∀ name attributes, .tag (.opening name attributes) ∈ piece.tokens →
    ∀ one ∈ classes, hasClass one attributes = false

section Outside

variable {classes : List String} {tag : String} {attributes : List Attribute}

@[simp] theorem isOutside_opening : (Piece.opening tag attributes).IsOutside classes ↔
    ∀ one ∈ classes, hasClass one attributes = false := by
  simp [Piece.IsOutside, Piece.tokens]

@[simp] theorem isOutside_closing : (Piece.closing tag).IsOutside classes := by
  simp [Piece.IsOutside, Piece.tokens]

@[simp] theorem isOutside_void : (Piece.void tag attributes).IsOutside classes := by
  simp [Piece.IsOutside, Piece.tokens]

@[simp] theorem isOutside_selfClosed : (Piece.selfClosed tag attributes).IsOutside classes := by
  simp [Piece.IsOutside, Piece.tokens]

@[simp] theorem isOutside_text (content : Text) : (Piece.text content).IsOutside classes := by
  simp [Piece.IsOutside, Piece.tokens]

theorem isOutside_verbatim {content : String} (plain : Plain content.toList) :
    (Piece.verbatim content).IsOutside classes := by
  simp [Piece.IsOutside, Piece.tokens, tokens_of_tagless plain.not_mem.2.1]

/-- None of the pieces begins an element of one of the classes. -/
def AllOutside (classes : List String) (pieces : List Piece) : Prop :=
  ∀ piece ∈ pieces, piece.IsOutside classes

variable {pieces first second content : List Piece}

@[simp] theorem allOutside_nil : AllOutside classes [] := by simp [AllOutside]

@[simp] theorem allOutside_cons {piece : Piece} : AllOutside classes (piece :: pieces) ↔
    piece.IsOutside classes ∧ AllOutside classes pieces :=
  List.forall_mem_cons

@[simp] theorem allOutside_append : AllOutside classes (first ++ second) ↔
    AllOutside classes first ∧ AllOutside classes second :=
  List.forall_mem_append

@[simp] theorem allOutside_element : AllOutside classes (element tag attributes content) ↔
    (∀ one ∈ classes, hasClass one attributes = false) ∧ AllOutside classes content := by
  simp [element]

theorem AllOutside.mono {larger : List String} (outside : AllOutside larger pieces)
    (among : classes ⊆ larger) : AllOutside classes pieces :=
  fun piece member name attributes opens one listed =>
    outside piece member name attributes opens one (among listed)

theorem AllOutside.flatMap {α : Type} {parts : List α} {write : α → List Piece}
    (outside : ∀ part ∈ parts, AllOutside classes (write part)) :
    AllOutside classes (parts.flatMap write) := by
  intro piece member
  obtain ⟨part, among, member⟩ := List.mem_flatMap.mp member
  exact outside part among piece member

end Outside

theorem entries_append (kind : EntryKind) {first : List Token}
    (outside : ∀ name attributes, .tag (.opening name attributes) ∈ first →
      hasClass kind.entry attributes = false) (rest : List Token) :
    entries kind (first ++ rest) = entries kind rest := by
  induction first with
  | nil => rfl
  | cons token first ih =>
      have following := ih fun name attributes member =>
        outside name attributes (List.mem_cons_of_mem token member)
      rw [List.cons_append]
      cases token with
      | char c => exact following
      | tag tag =>
          cases tag with
          | opening name attributes =>
              rw [entries, outside name attributes (by simp)]
              exact following
          | _ => exact following

theorem entries_pieces (kind : EntryKind) {classes : List String} {pieces : List Piece}
    (member : kind.entry ∈ classes) (outside : AllOutside classes pieces) (rest : List Token) :
    entries kind (pieces.flatMap Piece.tokens ++ rest) = entries kind rest := by
  refine entries_append kind (fun name attributes among => ?_) rest
  obtain ⟨piece, inPieces, inTokens⟩ := List.mem_flatMap.mp among
  exact outside piece inPieces name attributes inTokens kind.entry member

theorem countP_begins_pieces {classes : List String} {pieces : List Piece} {name : String}
    (member : name ∈ classes) (outside : AllOutside classes pieces) :
    (pieces.flatMap Piece.tokens).countP (Token.begins name) = 0 := by
  refine List.countP_eq_zero.mpr fun token among => ?_
  obtain ⟨piece, inPieces, inTokens⟩ := List.mem_flatMap.mp among
  unfold Token.begins
  split
  · simp [outside piece inPieces _ _ inTokens name member]
  · simp

/-- An element of the class is the entry that its number and its title say. -/
theorem entries_element (kind : EntryKind) {tag inner number : String}
    {attributes : List Attribute} {title : Text} (isEntry : hasClass kind.entry attributes)
    (plain : Plain number.toList) (rest : List Token) :
    entries kind ((element tag attributes (element inner [("class", kind.number)]
        [.verbatim number] ++ textElement inner [("class", kind.title)] title)).flatMap
          Piece.tokens ++ rest) =
      ⟨attributes.lookup kind.target, number.toList, escape title⟩ :: entries kind rest := by
  obtain ⟨blanklessEntry, blanklessNumber, blanklessTitle⟩ :
      ' ' ∉ kind.entry.toList ∧ ' ' ∉ kind.number.toList ∧ ' ' ∉ kind.title.toList := by
    simpa using kind.blankless
  obtain ⟨⟨entryNumber, entryTitle⟩, numberTitle⟩ :
      (kind.entry ≠ kind.number ∧ kind.entry ≠ kind.title) ∧ kind.number ≠ kind.title := by
    simpa using kind.apart
  have skips (text : Text) (rest : List Token) :
      entries kind (text.map .char ++ rest) = entries kind rest :=
    entries_append kind (by simp) rest
  have parts : (element tag attributes (element inner [("class", kind.number)]
        [.verbatim number] ++ textElement inner [("class", kind.title)] title)).flatMap
          Piece.tokens ++ rest =
      .tag (.opening tag attributes) :: .tag (.opening inner [("class", kind.number)]) ::
        (number.toList.map .char ++ .tag (.closing inner) ::
          .tag (.opening inner [("class", kind.title)]) ::
            ((escape title).map .char ++
              .tag (.closing inner) :: .tag (.closing tag) :: rest)) := by
    simp [element, textElement, Piece.tokens, tokens_of_tagless plain.not_mem.2.1]
  rw [parts]
  simp [entries, textOfClass, isEntry, hasClass_of_blankless blanklessNumber,
    hasClass_of_blankless blanklessTitle, leadingText_chars, textOfClass_chars, skips,
    entryNumber, entryTitle, numberTitle.symm]

end EnergyReport.Html
