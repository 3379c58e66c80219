import EnergyReport.Document.Page
import EnergyReport.Proofs.Chart.Drawing
import EnergyReport.Proofs.Html.Rendering

namespace EnergyReport.Document

open Html

/-! The tags that a document may hold.

Tags are listed by name with the names of their attributes. A value is fixed, or it is a
number, the color of the theme, the coordinates of a drawing or the data of an image.
Nothing that a report, a caption or a file name says can stand in a tag. -/

/-- What the value of an attribute may be. -/
inductive Slot where
  | fixed (text : String)
  /-- One of a few fixed texts. -/
  | choice (texts : List String)
  /-- The number of a section, after a fixed text. -/
  | sectionNumber (lead : String)
  /-- A number, after a fixed text. -/
  | number (lead : String)
  /-- The first color of the theme, after a fixed text. -/
  | primaryColor (lead : String)
  /-- The coordinates and path letters of a chart. -/
  | drawing
  /-- An image that is held in the document. -/
  | imageData
  deriving Repr, DecidableEq

/-- What a document is made with besides its texts. -/
structure Scope where
  primary : Rgb
  images : List Image

def Slot.Admits (scope : Scope) : Slot → String → Prop
  | .fixed text, value => value = text
  | .choice texts, value => value ∈ texts
  | .sectionNumber lead, value => ∃ sec : Markup.Section, value = lead ++ sec.label
  | .number lead, value => ∃ number : Nat, value = lead ++ toString number
  | .primaryColor lead, value => value = lead ++ String.ofList scope.primary.toHex
  | .drawing, value => Chart.Drawn value.toList
  | .imageData, value => ∃ image ∈ scope.images, value = image.dataUri

/-- How a tag stands: it begins an element, or it is an element without content. -/
inductive TagForm where
  | opening
  | void
  | selfClosed
  deriving Repr, DecidableEq

def TagForm.piece : TagForm → String → List Attribute → Piece
  | .opening => .opening
  | .void => .void
  | .selfClosed => .selfClosed

structure TagEntry where
  form : TagForm
  tag : String
  slots : List (String × Slot)
  deriving Repr, DecidableEq

def bareTag (tag : String) : TagEntry := ⟨.opening, tag, []⟩

def classTag (tag : String) (classes : List String) : TagEntry :=
  ⟨.opening, tag, [("class", .choice classes)]⟩

def pageClasses : List String := ["cover-page", "end-page", "sommaire-page", "sommaire-items",
  "header", "deco-1", "deco-2", "deco-3", "header-content", "badge", "body", "summary-card",
  "summary-title", "summary-grid", "summary-item", "summary-label", "summary-value",
  "photos-section", "photo-grid", "photo-item", "footer"]

def documentTag : TagEntry := ⟨.opening, "html", [("lang", .fixed "fr")]⟩

def charsetTag : TagEntry := ⟨.void, "meta", [("charset", .fixed "UTF-8")]⟩

def gradeValueTag : TagEntry :=
  ⟨.opening, "div", [("class", .fixed "summary-value summary-value-large"),
    ("style", .primaryColor "color: ")]⟩

def contentsLinkTag : TagEntry :=
  ⟨.opening, "a", [("class", .fixed "sommaire-item"), ("href", .sectionNumber "#section-")]⟩

def coverTag : TagEntry :=
  ⟨.selfClosed, "img", [("src", .imageData), ("alt", .fixed "Couverture")]⟩

def logoTag : TagEntry :=
  ⟨.selfClosed, "img", [("src", .imageData), ("alt", .fixed "Logo"),
    ("class", .fixed "header-logo")]⟩

def photoTag : TagEntry :=
  ⟨.selfClosed, "img", [("src", .imageData), ("alt", .number "Photo ")]⟩

def endPageTag : TagEntry :=
  ⟨.selfClosed, "img", [("src", .imageData), ("alt", .number "Page de fin ")]⟩

/-- The tags around the body of a report. -/
def pageTags : List TagEntry := [documentTag, charsetTag, bareTag "head", bareTag "title",
  bareTag "style", bareTag "body", bareTag "h1", classTag "div" pageClasses,
  classTag "h1" ["sommaire-title"], classTag "p" ["photo-caption"],
  classTag "span" ["sommaire-number", "sommaire-text"], gradeValueTag, contentsLinkTag, coverTag,
  logoTag, photoTag, endPageTag]

def bannerTag : TagEntry :=
  ⟨.opening, "div", [("class", .fixed "section-separator"), ("id", .sectionNumber "section-"),
    ("style", .choice ["background: #47b5e8", "background: #7ed321", "background: #f5a623",
      "background: #4a90e2", "background: #bd10e0"])]⟩

def calloutTag : TagEntry :=
  ⟨.opening, "div", [
    ("class", .choice ["callout callout-info", "callout callout-warning", "callout callout-tip",
      "callout callout-danger"]),
    ("style", .choice ["border-left: 4px solid #3b82f6; background: #eff6ff",
      "border-left: 4px solid #f59e0b; background: #fffbeb",
      "border-left: 4px solid #10b981; background: #f0fdf4",
      "border-left: 4px solid #ef4444; background: #fef2f2"])]⟩

def calloutHeaderTag : TagEntry :=
  ⟨.opening, "div", [("class", .fixed "callout-header"),
    ("style", .choice ["color: #3b82f6", "color: #f59e0b", "color: #10b981",
      "color: #ef4444"])]⟩

def badgeClasses : List String := ["badge badge-urgent", "badge badge-recommended",
  "badge badge-optional"]

/-- The tags of the blocks of a report and of the formatting within a line. -/
def markupTags : List TagEntry := [bannerTag, calloutTag, calloutHeaderTag,
  classTag "div" ["section-number", "section-title", "callout-content"],
  classTag "span" ["callout-icon", "callout-title"], classTag "span" badgeClasses,
  bareTag "h2", bareTag "h3", bareTag "p", bareTag "ul", bareTag "ol", bareTag "li",
  bareTag "table", bareTag "thead", bareTag "tbody", bareTag "tr", bareTag "th", bareTag "td",
  bareTag "strong", bareTag "em", ⟨.void, "br", []⟩]

def gradeFills : List String := Chart.Grade.all.map Chart.Grade.color

def categoryFills : List String := Chart.LossCategory.all.map Chart.LossCategory.color

def inks : List String :=
  [Chart.ink, Chart.mutedInk, Chart.legendInk, "#fff", "#333"] ++ gradeFills

def laddersTag : TagEntry :=
  ⟨.opening, "div", [("class", .fixed "chart-wrap"),
    ("style", .fixed "display:flex;gap:24px;flex-wrap:wrap")]⟩

def ladderTag : TagEntry := ⟨.opening, "svg", [("viewBox", .drawing), ("width", .number "")]⟩

def wideDrawingTag : TagEntry :=
  ⟨.opening, "svg", [("viewBox", .drawing), ("width", .fixed "100%"),
    ("style", .choice ["max-width:430px", "max-width:450px"])]⟩

def labelTag : TagEntry :=
  ⟨.opening, "text", [("x", .number ""), ("y", .number ""), ("font-size", .number ""),
    ("fill", .choice inks), ("font-family", .fixed Chart.fontFamily)]⟩

def weightedLabelTag : TagEntry :=
  ⟨.opening, "text", [("x", .number ""), ("y", .number ""), ("font-size", .number ""),
    ("font-weight", .number ""), ("fill", .choice inks),
    ("font-family", .fixed Chart.fontFamily)]⟩

def ladderTitleTag : TagEntry :=
  ⟨.opening, "text", [("x", .number ""), ("y", .fixed "17"), ("text-anchor", .fixed "middle"),
    ("font-size", .fixed "9"), ("font-weight", .fixed "600"), ("fill", .choice inks),
    ("font-family", .fixed Chart.fontFamily), ("letter-spacing", .fixed "0.8")]⟩

def gradeBarTag : TagEntry :=
  ⟨.selfClosed, "polygon", [("data-grade", .choice ["A", "B", "C", "D", "E", "F", "G"]),
    ("points", .drawing), ("fill", .choice gradeFills), ("stroke", .choice [Chart.ink, "none"]),
    ("stroke-width", .choice ["2.5", "0"]), ("stroke-linejoin", .fixed "round")]⟩

/-- The pointer of a ladder, and the marker of an improvement. -/
def pointerTag : TagEntry :=
  ⟨.selfClosed, "polygon", [("class", .choice ["grade-pointer", "improvement"]),
    ("points", .drawing), ("fill", .choice [Chart.ink, Chart.improvementColor])]⟩

def wedgeTag : TagEntry :=
  ⟨.selfClosed, "path", [("d", .drawing), ("fill", .choice categoryFills),
    ("stroke", .fixed "#fff"), ("stroke-width", .fixed "2")]⟩

def legendMarkerTag : TagEntry :=
  ⟨.selfClosed, "circle", [("cx", .fixed "228"), ("cy", .number ""), ("r", .fixed "7"),
    ("fill", .choice categoryFills)]⟩

def comparisonBarTag : TagEntry :=
  ⟨.selfClosed, "rect", [("x", .number ""), ("y", .number ""), ("width", .number ""),
    ("height", .number ""), ("fill", .choice gradeFills), ("rx", .fixed "6")]⟩

def chartTags : List TagEntry := [classTag "div" ["chart-wrap", "chart-compare"], laddersTag,
  ladderTag, wideDrawingTag, labelTag, weightedLabelTag, ladderTitleTag, gradeBarTag, pointerTag,
  wedgeTag, legendMarkerTag, comparisonBarTag]

def vocabulary : List TagEntry :=
  pageTags ++ markupTags ++ chartTags

def Admitted (scope : Scope) (slots : List (String × Slot)) (attributes : List Attribute) :
    Prop :=
  List.Forall₂
    (fun slot given => given.1 = slot.1 ∧ slot.2.Admits scope given.2) slots attributes

section Admission

variable {scope : Scope}

@[simp] theorem Slot.admits_fixed {text value : String} :
    (Slot.fixed text).Admits scope value ↔ value = text := Iff.rfl

@[simp] theorem Slot.admits_choice {texts : List String} {value : String} :
    (Slot.choice texts).Admits scope value ↔ value ∈ texts := Iff.rfl

@[simp] theorem Slot.admits_number (lead : String) (number : Nat) :
    (Slot.number lead).Admits scope (lead ++ number.repr) := ⟨number, rfl⟩

@[simp] theorem Slot.admits_bare_number (number : Nat) :
    (Slot.number "").Admits scope number.repr := ⟨number, by simp⟩

@[simp] theorem Slot.admits_drawing {value : String} :
    Slot.drawing.Admits scope value ↔ Chart.Drawn value.toList := Iff.rfl

@[simp] theorem admitted_nil : Admitted scope [] [] := .nil

@[simp] theorem admitted_cons {slot : String × Slot} {slots : List (String × Slot)}
    {given : Attribute} {attributes : List Attribute} :
    Admitted scope (slot :: slots) (given :: attributes) ↔
      (given.1 = slot.1 ∧ slot.2.Admits scope given.2) ∧ Admitted scope slots attributes :=
  List.forall₂_cons

end Admission

theorem Admitted.exists_slot {scope : Scope} {slots : List (String × Slot)}
    {attributes : List Attribute} (admitted : Admitted scope slots attributes)
    {given : Attribute} (member : given ∈ attributes) :
    ∃ slot ∈ slots, given.1 = slot.1 ∧ slot.2.Admits scope given.2 := by
  induction admitted with
  | nil => simp at member
  | cons first rest ih =>
      rcases List.mem_cons.mp member with rfl | member
      · exact ⟨_, by simp, first⟩
      · obtain ⟨slot, among, holds⟩ := ih member
        exact ⟨slot, List.mem_cons_of_mem _ among, holds⟩

/-- The tags of the vocabulary, and the document type. -/
inductive OwnTag (scope : Scope) : Piece → Prop where
  | documentType : OwnTag scope (.verbatim "<!DOCTYPE html>")
  | entry {entry : TagEntry} {attributes : List Attribute} (listed : entry ∈ vocabulary)
      (admitted : Admitted scope entry.slots attributes) :
      OwnTag scope (entry.form.piece entry.tag attributes)
  | closing {entry : TagEntry} (listed : entry ∈ vocabulary) (opens : entry.form = .opening) :
      OwnTag scope (.closing entry.tag)

/-- A tag of the vocabulary, escaped text, or plain characters. -/
inductive Safe (scope : Scope) : Piece → Prop where
  | tag {piece : Piece} (own : OwnTag scope piece) : Safe scope piece
  | text (content : Text) : Safe scope (.text content)
  | plain {content : String} (plain : Plain content.toList) : Safe scope (.verbatim content)

/-! ### Own tags are closed in themselves -/

/-- The texts of a slot that do not depend on the document. -/
def Slot.texts : Slot → List String
  | .fixed text => [text]
  | .choice texts => texts
  | .sectionNumber lead => [lead]
  | .number lead => [lead]
  | .primaryColor lead => [lead]
  | .drawing => []
  | .imageData => []

def TagEntry.texts (entry : TagEntry) : List String :=
  entry.tag :: entry.slots.flatMap fun slot => slot.1 :: slot.2.texts

theorem plain_of_mem_vocabulary {entry : TagEntry} (listed : entry ∈ vocabulary) :
    ∀ text ∈ entry.texts, Plain text.toList := by
  have checked : ∀ entry ∈ vocabulary, ∀ text ∈ entry.texts, Plain.bytes text := by
    decide +kernel
  exact fun text member => .of_bytes (checked entry listed text member)

theorem plain_base64Digit (value : Nat) : Binary.base64Digit value ∉ markupChars := by
  by_cases small : value < 64
  · revert value
    decide
  · have above : Binary.base64Digit value = '/' := by
      simp only [Binary.base64Digit]
      split_ifs <;> first | rfl | omega
    rw [above]
    decide

theorem plain_base64 (bytes : List UInt8) : Plain (Binary.base64 bytes) := by
  have padding : '=' ∉ markupChars := by decide
  fun_induction Binary.base64 bytes with
  | case1 => exact Plain.nil
  | case2 a => simp [Plain, plain_base64Digit, padding]
  | case3 a b => simp [Plain, plain_base64Digit, padding]
  | case4 a b c rest word ih =>
      intro digit member
      simp only [List.mem_cons] at member
      rcases member with rfl | rfl | rfl | rfl | member
      · exact plain_base64Digit _
      · exact plain_base64Digit _
      · exact plain_base64Digit _
      · exact plain_base64Digit _
      · exact ih digit member

theorem plain_dataUri {image : Image} (clean : Plain image.mediaType.toList) :
    Plain image.dataUri.toList := by
  have lead : Plain "data:".toList := by decide
  have encoding : Plain ";base64,".toList := by decide
  simp only [Image.dataUri, String.toList_append, String.toList_ofList, Plain.append, lead, clean,
    encoding, plain_base64, and_self]

theorem plain_toHex (color : Rgb) : Plain color.toHex := by
  have digit (value : Nat) (small : value < 16) : Nat.digitChar value ∉ markupChars := by
    revert value
    decide
  have channel (value : UInt8) : Plain (Rgb.channelHex value) := by
    have range := value.toNat_lt
    have high := digit (value.toNat / 16) (by omega)
    have low := digit (value.toNat % 16) (by omega)
    simp [Plain, Rgb.channelHex, high, low]
  have sign : '#' ∉ markupChars := by decide
  intro c member
  simp only [Rgb.toHex, List.mem_cons, List.mem_append] at member
  rcases member with ((rfl | member) | member) | member
  · exact sign
  · exact channel _ c member
  · exact channel _ c member
  · exact channel _ c member

theorem plain_label (sec : Markup.Section) : Plain sec.label.toList := by
  have zero : Plain "0".toList := by decide
  simp only [Markup.Section.label]
  split
  · simp only [String.toList_append, Plain.append, zero, Plain.toString_nat, and_self]
  · exact Plain.toString_nat _

/-- What a slot admits ends no attribute value, where the media types of the images do not. -/
theorem Slot.plain_of_admits {scope : Scope} {slot : Slot} {value : String}
    (clean : ∀ image ∈ scope.images, Plain image.mediaType.toList)
    (fixed : ∀ text ∈ slot.texts, Plain text.toList) (admitted : slot.Admits scope value) :
    Plain value.toList := by
  cases slot with
  | fixed text => exact admitted ▸ fixed text (by simp [texts])
  | choice texts => exact fixed value admitted
  | sectionNumber lead =>
      obtain ⟨sec, rfl⟩ := admitted
      simp [fixed lead (by simp [texts]), plain_label]
  | number lead =>
      obtain ⟨number, rfl⟩ := admitted
      rw [String.toList_append, Plain.append]
      exact ⟨fixed lead (by simp [texts]), Plain.toString_nat number⟩
  | primaryColor lead =>
      rw [admitted, String.toList_append, Plain.append, String.toList_ofList]
      exact ⟨fixed lead (by simp [texts]), plain_toHex _⟩
  | drawing => exact Chart.Drawn.plain admitted
  | imageData =>
      obtain ⟨image, member, rfl⟩ := admitted
      exact plain_dataUri (clean image member)

/-- Whether the character may stand in a tag after its beginning and before its end. -/
def InsideTag (c : Char) : Prop :=
  c ≠ '<' ∧ c ≠ '>' ∧ c ≠ '&'

theorem insideTag_of_plain {text : Text} (plain : Plain text) : ∀ c ∈ text, InsideTag c := by
  intro c member
  have free := plain c member
  simp only [markupChars, List.mem_cons, List.not_mem_nil, or_false, not_or] at free
  exact ⟨free.2.1, free.2.2.1, free.2.2.2⟩

theorem insideTag_renderAttribute {name value : String} (plainName : Plain name.toList)
    (plainValue : Plain value.toList) :
    ∀ c ∈ (renderAttribute (name, value)).toList, InsideTag c := by
  have quote : InsideTag '"' := by simp [InsideTag]
  have blank : InsideTag ' ' := by simp [InsideTag]
  have equals : InsideTag '=' := by simp [InsideTag]
  intro c member
  simp only [renderAttribute, String.toList_append, List.mem_append] at member
  rcases member with (((member | member) | member) | member) | member
  · simp at member
    exact member ▸ blank
  · exact insideTag_of_plain plainName c member
  · simp at member
    rcases member with rfl | rfl
    · exact equals
    · exact quote
  · exact insideTag_of_plain plainValue c member
  · simp at member
    exact member ▸ quote

theorem insideTag_renderTag {scope : Scope} {entry : TagEntry} {attributes : List Attribute}
    (clean : ∀ image ∈ scope.images, Plain image.mediaType.toList) (listed : entry ∈ vocabulary)
    (admitted : Admitted scope entry.slots attributes) :
    ∀ c ∈ (renderTag entry.tag attributes).toList, InsideTag c := by
  have fixed := plain_of_mem_vocabulary listed
  intro c member
  simp only [renderTag, String.toList_append, String.toList_join, List.mem_append,
    List.mem_flatMap, List.mem_map] at member
  rcases member with member | ⟨_, ⟨⟨name, value⟩, given, rfl⟩, member⟩
  · exact insideTag_of_plain (fixed entry.tag (by simp [TagEntry.texts])) c member
  · obtain ⟨slot, among, rfl, value⟩ := admitted.exists_slot given
    have name : Plain slot.1.toList :=
      fixed slot.1 (List.mem_cons_of_mem entry.tag (List.mem_flatMap.mpr ⟨slot, among, by simp⟩))
    have texts : ∀ text ∈ slot.2.texts, Plain text.toList := fun text member =>
      fixed text (List.mem_cons_of_mem entry.tag
        (List.mem_flatMap.mpr ⟨slot, among, List.mem_cons_of_mem slot.1 member⟩))
    exact insideTag_renderAttribute name (Slot.plain_of_admits clean texts value) c member

/-- A tag ends where its own form ends. -/
theorem OwnTag.render_eq {scope : Scope} {piece : Piece}
    (clean : ∀ image ∈ scope.images, Plain image.mediaType.toList) (own : OwnTag scope piece) :
    ∃ inner, piece.render.toList = '<' :: inner ++ ['>'] ∧ ∀ c ∈ inner, InsideTag c := by
  have slash : InsideTag '/' := by simp [InsideTag]
  cases own with
  | documentType =>
      exact ⟨"!DOCTYPE html".toList, by decide, insideTag_of_plain (by decide)⟩
  | @entry entry attributes listed admitted =>
      have inside := insideTag_renderTag clean listed admitted
      cases form : entry.form with
      | opening => exact ⟨_, by simp [TagForm.piece, Piece.render], inside⟩
      | void => exact ⟨_, by simp [TagForm.piece, Piece.render], inside⟩
      | selfClosed =>
          refine ⟨(renderTag entry.tag attributes).toList ++ ['/'],
            by simp [TagForm.piece, Piece.render], ?_⟩
          intro c member
          rcases List.mem_append.mp member with member | member
          · exact inside c member
          · simp at member
            exact member ▸ slash
  | @closing entry listed opens =>
      have name := plain_of_mem_vocabulary listed entry.tag (by simp [TagEntry.texts])
      refine ⟨'/' :: entry.tag.toList, by simp [Piece.render], ?_⟩
      intro c member
      rcases List.mem_cons.mp member with rfl | member
      · exact slash
      · exact insideTag_of_plain name c member

theorem OwnTag.ampersand_not_mem_render {scope : Scope} {piece : Piece}
    (own : OwnTag scope piece) (clean : ∀ image ∈ scope.images, Plain image.mediaType.toList) :
    '&' ∉ piece.render.toList := by
  obtain ⟨inner, shape, inside⟩ := own.render_eq clean
  rw [shape]
  simp only [List.cons_append, List.mem_cons, List.mem_append, List.not_mem_nil, or_false]
  rintro (contra | among | contra)
  · contradiction
  · exact (inside '&' among).2.2 rfl
  · contradiction

/-! ### Where markup can stand in a document -/

variable {scope : Scope} {pieces : List Piece}

/-- In a document of safe pieces every angle bracket that opens begins a tag of the
vocabulary. -/
theorem ownTag_of_render (clean : ∀ image ∈ scope.images, Plain image.mediaType.toList)
    (safe : ∀ piece ∈ pieces, Safe scope piece) {before after : Text}
    (written : (render pieces).toList = before ++ '<' :: after) :
    ∃ tag, OwnTag scope tag ∧ tag.render.toList <+: '<' :: after := by
  rw [toList_render] at written
  obtain ⟨piece, member, left, right, inPiece, place⟩ := exists_part_of_flatMap written
  have bracket : '<' ∈ piece.render.toList := by simp [inPiece]
  cases safe piece member with
  | text content =>
      simp only [Piece.render, String.toList_ofList] at bracket
      exact absurd bracket (lt_not_mem_escape content)
  | plain plain => exact absurd (by simp [markupChars]) (plain '<' bracket)
  | tag own =>
      obtain ⟨inner, shape, inside⟩ := own.render_eq clean
      cases left with
      | nil =>
          have whole : piece.render.toList = '<' :: right := by simpa using inPiece
          exact ⟨piece, own, whole ▸ place⟩
      | cons first left =>
          rw [shape, List.cons_append, List.cons_append, List.cons.injEq] at inPiece
          have among : '<' ∈ inner ++ ['>'] := by simp [inPiece.2]
          rcases List.mem_append.mp among with among | among
          · exact absurd rfl (inside '<' among).1
          · simp at among

/-- In a document of safe pieces every ampersand begins an entity. -/
theorem entity_of_render (clean : ∀ image ∈ scope.images, Plain image.mediaType.toList)
    (safe : ∀ piece ∈ pieces, Safe scope piece) {before after : Text}
    (written : (render pieces).toList = before ++ '&' :: after) :
    ∃ entity ∈ entities, entity <+: '&' :: after := by
  rw [toList_render] at written
  obtain ⟨piece, member, left, right, inPiece, place⟩ := exists_part_of_flatMap written
  have ampersand : '&' ∈ piece.render.toList := by simp [inPiece]
  cases safe piece member with
  | text content =>
      simp only [Piece.render, String.toList_ofList] at inPiece
      obtain ⟨entity, known, begins⟩ := entity_of_escape inPiece
      exact ⟨entity, known, begins.trans place⟩
  | plain plain => exact absurd (by simp [markupChars]) (plain '&' ampersand)
  | tag own => exact absurd ampersand (own.ampersand_not_mem_render clean)

/-- Where no text is escaped there is no ampersand at all. -/
theorem ampersand_not_mem_render (clean : ∀ image ∈ scope.images, Plain image.mediaType.toList)
    (safe : ∀ piece ∈ pieces, Safe scope piece)
    (textless : ∀ piece ∈ pieces, ∀ content, piece ≠ .text content) :
    '&' ∉ (render pieces).toList := by
  rw [toList_render]
  intro member
  obtain ⟨piece, among, ampersand⟩ := List.mem_flatMap.mp member
  cases safe piece among with
  | text content => exact textless _ among content rfl
  | plain plain => exact absurd (by simp [markupChars]) (plain '&' ampersand)
  | tag own => exact own.ampersand_not_mem_render clean ampersand

/-! ### Documents made of safe pieces -/

def AllSafe (scope : Scope) (pieces : List Piece) : Prop :=
  ∀ piece ∈ pieces, Safe scope piece

namespace AllSafe

@[simp] theorem nil : AllSafe scope [] := by simp [AllSafe]

@[simp] theorem cons {piece : Piece} :
    AllSafe scope (piece :: pieces) ↔ Safe scope piece ∧ AllSafe scope pieces := by
  simp [AllSafe]

@[simp] theorem append {first second : List Piece} :
    AllSafe scope (first ++ second) ↔ AllSafe scope first ∧ AllSafe scope second := by
  simp only [AllSafe, List.mem_append]
  constructor
  · intro safe
    exact ⟨fun piece member => safe piece (.inl member),
      fun piece member => safe piece (.inr member)⟩
  · rintro ⟨first, second⟩ piece (member | member)
    · exact first piece member
    · exact second piece member

theorem cons_of_alone {piece : Piece} (alone : AllSafe scope [piece])
    (rest : AllSafe scope pieces) : AllSafe scope (piece :: pieces) :=
  cons.mpr ⟨(cons.mp alone).1, rest⟩

theorem flatMap {α : Type} {parts : List α} {write : α → List Piece}
    (safe : ∀ part ∈ parts, AllSafe scope (write part)) : AllSafe scope (parts.flatMap write) := by
  intro piece member
  obtain ⟨part, among, member⟩ := List.mem_flatMap.mp member
  exact safe part among piece member

theorem verbatim {content : String} (plain : Plain content.toList) :
    AllSafe scope [.verbatim content] := by
  simpa using Safe.plain plain

theorem text (content : Text) : AllSafe scope [.text content] := by
  simpa using Safe.text content

theorem element (entry : TagEntry) {attributes : List Attribute} {content : List Piece}
    (listed : entry ∈ vocabulary) (opens : entry.form = .opening)
    (admitted : Admitted scope entry.slots attributes) (inside : AllSafe scope content) :
    AllSafe scope (Html.element entry.tag attributes content) := by
  have opening := OwnTag.entry listed admitted
  rw [opens] at opening
  simp only [Html.element, List.cons_append, cons, append, inside, nil, true_and, and_true]
  exact ⟨.tag opening, .tag (.closing listed opens)⟩

theorem selfClosed (entry : TagEntry) {attributes : List Attribute} (listed : entry ∈ vocabulary)
    (closed : entry.form = .selfClosed) (admitted : Admitted scope entry.slots attributes) :
    AllSafe scope [.selfClosed entry.tag attributes] := by
  have own := OwnTag.entry listed admitted
  rw [closed] at own
  exact cons.mpr ⟨.tag own, nil⟩

theorem bare {tag : String} {content : List Piece} (listed : bareTag tag ∈ vocabulary)
    (inside : AllSafe scope content) : AllSafe scope (Html.element tag [] content) :=
  element _ listed rfl List.Forall₂.nil inside

theorem classed {tag : String} {classes : List String} {name : String} {content : List Piece}
    (listed : classTag tag classes ∈ vocabulary) (known : name ∈ classes)
    (inside : AllSafe scope content) :
    AllSafe scope (Html.element tag [("class", name)] content) :=
  element _ listed rfl (.cons ⟨rfl, known⟩ .nil) inside

end AllSafe

end EnergyReport.Document
