import EnergyReport.Document.Page
import EnergyReport.Proofs.Markup.Safety
import EnergyReport.Proofs.Report.Safety

namespace EnergyReport.Document

open Html

/-! No input can bring markup into a document: what stands around the body is safe as the
body is. -/

/-! ### The stylesheet -/

namespace StyleRule

def texts (rule : StyleRule) : List String :=
  rule.selector :: rule.declarations.flatMap fun entry => [entry.1, entry.2]

theorem plain_render {rule : StyleRule} (plain : ∀ text ∈ rule.texts, Plain text.toList) :
    Plain rule.render.toList := by
  have punctuation : Plain " \x7b ".toList ∧ Plain " \x7b\n".toList ∧ Plain " \x7d\n".toList ∧
      Plain "\x7d\n".toList ∧ Plain ": ".toList ∧ Plain ";".toList ∧ Plain "  ".toList ∧
      Plain "\n".toList ∧ Plain " ".toList := by decide
  obtain ⟨openLine, openBlock, closeLine, closeBlock, colon, semicolon, indent, newline, blank⟩ :=
    punctuation
  have selector : Plain rule.selector.toList := plain _ (by simp [texts])
  have declaration : ∀ entry ∈ rule.declarations, Plain (declaration entry).toList := by
    intro entry member
    have among : ∀ text ∈ [entry.1, entry.2], Plain text.toList := fun text either =>
      plain text (List.mem_cons_of_mem _ (List.mem_flatMap.mpr ⟨entry, member, either⟩))
    have property := among entry.1 (by simp)
    have value := among entry.2 (by simp)
    simp only [StyleRule.declaration, String.toList_append, Plain.append, property, value, colon,
      semicolon, and_self]
  unfold render
  split
  · have inside := Plain.intercalate blank (List.forall_mem_map.mpr declaration)
    simp only [String.toList_append, Plain.append, selector, openLine, inside, closeLine, and_self]
  · have inside : ∀ entry ∈ rule.declarations,
        Plain ("  " ++ StyleRule.declaration entry ++ "\n").toList := by
      intro entry member
      simp only [String.toList_append, Plain.append, indent, declaration entry member, newline,
        and_self]
    have joined := Plain.join (List.forall_mem_map.mpr inside)
    simp only [String.toList_append, Plain.append, selector, openBlock, joined, closeBlock,
      and_self]

end StyleRule

theorem Stylesheet.plain_text : Plain Stylesheet.text.toList := by
  have checked : ∀ group ∈ groups, ∀ rule ∈ group, ∀ text ∈ rule.texts, Plain.bytes text := by
    decide +kernel
  refine Plain.intercalate (by decide) (List.forall_mem_map.mpr fun group member => ?_)
  exact Plain.join (List.forall_mem_map.mpr fun rule among =>
    StyleRule.plain_render fun text inRule =>
      .of_bytes (checked group member rule among text inRule))

theorem Page.plain_themeRule (theme : Theme) : Plain (themeRule theme).render.toList := by
  have fixed : Plain ":root".toList ∧ Plain "--primary".toList ∧ Plain "--secondary".toList ∧
      Plain "--light".toList ∧ Plain "--very-light".toList ∧ Plain "--faint".toList ∧
      Plain "--primary-translucent".toList ∧ Plain "33".toList := by decide
  apply StyleRule.plain_render
  simp [themeRule, StyleRule.block, StyleRule.texts, -String.reduceToList, plain_toHex, fixed]

/-! ### Images -/

theorem MediaType.plain_name_ofPath (path : Path) : Plain (ofPath path).name.toList := by
  have checked : ∀ group ∈ groups,
      Plain.bytes group.1 ∧ ∀ formats ∈ group.2, Plain.bytes formats.1 := by
    decide +kernel
  have known (type : MediaType) : (∃ extension, ofExtension? extension = some type) →
      Plain type.name.toList := by
    rintro ⟨extension, found⟩
    obtain ⟨⟨group, formats⟩, member, found⟩ := List.exists_of_findSome?_eq_some found
    obtain ⟨format, listed, rfl⟩ := Option.map_eq_some_iff.mp found
    have plain := checked (group, formats) member
    have slash : Plain "/".toList := by decide
    have plainFormat := plain.2 format (List.mem_of_find?_eq_some listed)
    simp only [name, String.toList_append, Plain.append, Plain.of_bytes plain.1, slash,
      Plain.of_bytes plainFormat, and_self]
  unfold ofPath
  cases found : (Path.extension? path).bind ofExtension? with
  | none => exact .of_bytes (by decide)
  | some type =>
      obtain ⟨extension, _, found⟩ := Option.bind_eq_some_iff.mp found
      exact known type ⟨extension, found⟩

theorem Image.plain_mediaType_of_load {files : Files} {path : Path} {image : Image}
    (loaded : load? files path = some image) : Plain image.mediaType.toList := by
  unfold load? at loaded
  split at loaded
  · rename_i read
    cases loaded
    simp only [load] at read
    split at read
    · split at read
      · cases read
        exact MediaType.plain_name_ofPath path
      · contradiction
    · contradiction
  · contradiction

namespace Options

def images (options : Options) : List Image :=
  options.logo.toList ++ options.cover.toList ++ options.endPages ++ options.photos.map Photo.image

/-- What a document is made with; its default cover is read from a file. -/
def scope (options : Options) (files : Files) : Scope :=
  ⟨options.theme.primary, options.images ++ (options.coverImage? files).toList⟩

theorem plain_mediaType_of_mem_scope {options : Options} (files : Files)
    (clean : ∀ image ∈ options.images, Plain image.mediaType.toList) :
    ∀ image ∈ (options.scope files).images, Plain image.mediaType.toList := by
  intro image member
  rcases List.mem_append.mp member with member | member
  · exact clean image member
  · have chosen := Option.mem_toList.mp member
    unfold coverImage? at chosen
    split at chosen
    · rename_i cover given
      cases chosen
      exact clean image (by simp [images, given])
    · obtain ⟨path, _, loaded⟩ := Option.bind_eq_some_iff.mp chosen
      exact Image.plain_mediaType_of_load loaded

end Options

/-! ### The page -/

namespace Page

variable {scope : Scope}

theorem safe_newline : AllSafe scope [newline] := .verbatim (by decide)

theorem safe_lineElement {tag : String} {attributes : List Attribute} {content : List Piece}
    (safe : AllSafe scope (element tag attributes content)) :
    AllSafe scope (lineElement tag attributes content) :=
  AllSafe.append.mpr ⟨safe, safe_newline⟩

theorem boxes_listed : classTag "div" pageClasses ∈ vocabulary := by decide

theorem safe_box {name : String} {content : List Piece} (known : name ∈ pageClasses)
    (inside : AllSafe scope content) :
    AllSafe scope (lineElement "div" [("class", name)] content) :=
  safe_lineElement (AllSafe.classed boxes_listed known inside)

theorem safe_container {name : String} {content : List Piece} (known : name ∈ pageClasses)
    (inside : AllSafe scope content) :
    AllSafe scope (container "div" [("class", name)] content) :=
  safe_box known (AllSafe.cons_of_alone safe_newline inside)

theorem safe_bare {tag : String} {content : List Piece} (listed : bareTag tag ∈ vocabulary)
    (inside : AllSafe scope content) : AllSafe scope (lineElement tag [] content) :=
  safe_lineElement (AllSafe.bare listed inside)

theorem safe_head (theme : Theme) : AllSafe scope (head theme) := by
  have style : Plain ((themeRule theme).render ++ Stylesheet.text).toList := by
    simp only [String.toList_append, Plain.append, plain_themeRule, Stylesheet.plain_text, and_self]
  have charset : charsetTag ∈ vocabulary := by decide
  refine safe_bare (by decide) (AllSafe.cons_of_alone safe_newline ?_)
  refine AllSafe.append.mpr ⟨AllSafe.append.mpr ⟨?_, ?_⟩, ?_⟩
  · exact AllSafe.cons.mpr ⟨.tag (.entry charset (.cons ⟨rfl, rfl⟩ .nil)), safe_newline⟩
  · exact safe_bare (by decide) (.verbatim (by decide))
  · exact safe_bare (by decide) (AllSafe.cons_of_alone safe_newline (.verbatim style))

theorem safe_cover {picture : Option Image} (known : ∀ image ∈ picture, image ∈ scope.images) :
    AllSafe scope (cover picture) := by
  cases picture with
  | none => exact AllSafe.nil
  | some picture =>
      refine safe_box (by decide) (AllSafe.selfClosed coverTag (by decide) rfl ?_)
      exact .cons ⟨rfl, picture, known picture rfl, rfl⟩ (.cons ⟨rfl, rfl⟩ .nil)

theorem safe_contents (sections : List Markup.Section) : AllSafe scope (contents sections) := by
  have entry (sec : Markup.Section) : AllSafe scope (contentsEntry sec) := by
    have listed : classTag "span" ["sommaire-number", "sommaire-text"] ∈ vocabulary := by decide
    have target : "#" ++ sec.anchor = "#section-" ++ sec.label := by
      rw [Markup.Section.anchor, ← String.append_assoc]
      rfl
    have link : Admitted scope contentsLinkTag.slots
        [("class", "sommaire-item"), ("href", "#" ++ sec.anchor)] :=
      .cons ⟨rfl, rfl⟩ (.cons ⟨rfl, sec, target⟩ .nil)
    refine safe_lineElement (AllSafe.element contentsLinkTag (by decide) rfl link ?_)
    refine AllSafe.append.mpr ⟨?_, ?_⟩
    · exact AllSafe.classed listed (by decide) (.verbatim (plain_label sec))
    · exact AllSafe.classed listed (by decide) (.text sec.title)
  have title : classTag "h1" ["sommaire-title"] ∈ vocabulary := by decide
  unfold contents
  split
  · exact AllSafe.nil
  · refine safe_container (by decide) (AllSafe.append.mpr ⟨?_, ?_⟩)
    · exact safe_lineElement (AllSafe.classed title (by decide) (.verbatim (by decide)))
    · exact safe_container (by decide) (AllSafe.flatMap fun sec _ => entry sec)

theorem safe_logo {picture : Option Image} (known : ∀ image ∈ picture, image ∈ scope.images) :
    AllSafe scope (logo picture) := by
  cases picture with
  | none => exact AllSafe.nil
  | some picture =>
      refine AllSafe.cons_of_alone (AllSafe.selfClosed logoTag (by decide) rfl ?_) safe_newline
      exact .cons ⟨rfl, picture, known picture rfl, rfl⟩ (.cons ⟨rfl, rfl⟩ (.cons ⟨rfl, rfl⟩ .nil))

theorem safe_header {options : Options} (known : ∀ image ∈ options.logo, image ∈ scope.images) :
    AllSafe scope (header options) := by
  have box {name : String} (known : name ∈ pageClasses) :
      AllSafe scope (element "div" [("class", name)] []) :=
    AllSafe.classed boxes_listed known AllSafe.nil
  have name : AllSafe scope [.verbatim "Basé sur : ", .text options.name] :=
    AllSafe.cons_of_alone (.verbatim (by decide)) (.text options.name)
  refine safe_container (by decide) (AllSafe.append.mpr ⟨AllSafe.append.mpr ⟨AllSafe.append.mpr
    ⟨AllSafe.append.mpr ⟨?_, ?_⟩, ?_⟩, safe_logo known⟩, ?_⟩)
  · exact box (by decide)
  · exact box (by decide)
  · exact safe_box (by decide) AllSafe.nil
  · refine safe_container (by decide) (AllSafe.append.mpr ⟨AllSafe.append.mpr ⟨?_, ?_⟩, ?_⟩)
    · exact safe_box (by decide) (.verbatim (by decide))
    · exact safe_bare (by decide) (.verbatim (by decide))
    · exact safe_bare (by decide) name

theorem safe_caption (text : Option Text) : AllSafe scope (caption text) := by
  have listed : classTag "p" ["photo-caption"] ∈ vocabulary := by decide
  unfold caption
  split
  · exact AllSafe.classed listed (by decide) (.text _)
  · exact AllSafe.nil

theorem safe_gallery {photos : List Photo} (known : ∀ photo ∈ photos, photo.image ∈ scope.images) :
    AllSafe scope (gallery photos) := by
  have one : ∀ entry ∈ photos.zipIdx 1, AllSafe scope (photo entry) := by
    intro entry member
    have among := known entry.1 (List.fst_mem_of_mem_zipIdx member)
    have picture : Admitted scope photoTag.slots
        [("src", entry.1.image.dataUri), ("alt", s!"Photo {entry.2}")] :=
      .cons ⟨rfl, entry.1.image, among, rfl⟩ (.cons ⟨rfl, entry.2, by simp [toString]⟩ .nil)
    exact safe_box (by decide) (AllSafe.cons_of_alone
      (AllSafe.selfClosed photoTag (by decide) rfl picture) (safe_caption entry.1.caption))
  unfold gallery
  split
  · exact AllSafe.nil
  · refine safe_container (by decide) (AllSafe.append.mpr ⟨?_, ?_⟩)
    · exact safe_bare (by decide) (.verbatim (by decide))
    · exact safe_container (by decide) (AllSafe.flatMap one)

theorem plain_inFrench (date : Date) : Plain date.inFrench.toList := by
  have fixed : Plain "0".toList ∧ Plain " ".toList := by decide
  have month : Plain date.month.frenchName.toList := by
    cases date.month <;> decide
  simp only [Date.inFrench, String.toList_append, Plain.append, fixed, month, Plain.toString_int,
    and_true]
  split
  · simp only [String.toList_append, Plain.append, fixed, Plain.toString_nat, and_self]
  · exact Plain.toString_nat _

theorem safe_footer (date : Date) : AllSafe scope (footer date) := by
  have day : Plain ("Ce document a été généré automatiquement par DPE Simplifié le " ++
      date.inFrench ++ ".").toList := by
    simp only [String.toList_append, Plain.append, plain_inFrench]
    decide
  refine safe_container (by decide) (AllSafe.append.mpr ⟨?_, ?_⟩)
  · exact safe_bare (by decide) (.verbatim day)
  · exact safe_bare (by decide) (.verbatim (.of_bytes (by decide)))

theorem safe_endPages {pages : List Image} (known : ∀ image ∈ pages, image ∈ scope.images) :
    AllSafe scope ((pages.zipIdx 1).flatMap endPage) := by
  refine AllSafe.flatMap fun entry member => ?_
  have among := known entry.1 (List.fst_mem_of_mem_zipIdx member)
  refine safe_box (by decide) (AllSafe.selfClosed endPageTag (by decide) rfl ?_)
  exact .cons ⟨rfl, entry.1, among, rfl⟩ (.cons ⟨rfl, entry.2, by simp [toString]⟩ .nil)

theorem safe_pieces {body : List Piece} (sections : List Markup.Section) (text : Text)
    {options : Options} {picture : Option Image} (inside : AllSafe scope body)
    (primary : scope.primary = options.theme.primary)
    (known : ∀ image ∈ options.images ++ picture.toList, image ∈ scope.images) :
    AllSafe scope (pieces body sections (Report.Summary.ofText text) options picture) := by
  have language : Admitted scope documentTag.slots [("lang", "fr")] := .cons ⟨rfl, rfl⟩ .nil
  have panel : AllSafe scope
      ((Report.Summary.ofText text).pieces (String.ofList options.theme.primary.toHex)) :=
    primary ▸ Report.Summary.safe_pieces text
  refine AllSafe.append.mpr ⟨AllSafe.cons.mpr ⟨.tag .documentType, safe_newline⟩, ?_⟩
  refine safe_lineElement (AllSafe.element documentTag (by decide) rfl language
    (AllSafe.cons_of_alone safe_newline (AllSafe.append.mpr ⟨safe_head _, ?_⟩)))
  refine safe_bare (by decide) (AllSafe.cons_of_alone safe_newline (AllSafe.append.mpr
    ⟨AllSafe.append.mpr ⟨AllSafe.append.mpr ⟨AllSafe.append.mpr ⟨AllSafe.append.mpr
      ⟨?_, safe_contents sections⟩, ?_⟩, ?_⟩, safe_footer _⟩, ?_⟩))
  · exact safe_cover fun image member => known image (by simp [Option.mem_def.mp member])
  · exact safe_header fun image member =>
      known image (by simp [Options.images, Option.mem_def.mp member])
  · refine safe_container (by decide) (AllSafe.append.mpr ⟨AllSafe.append.mpr
      ⟨AllSafe.append.mpr ⟨panel, inside⟩, safe_newline⟩, safe_gallery fun photo member => ?_⟩)
    have among : photo.image ∈ options.photos.map Photo.image := List.mem_map_of_mem member
    exact known photo.image (by simp [Options.images, among])
  · exact safe_endPages fun image member => known image (by simp [Options.images, member])

end Page

/-- In the document of any text, whatever its name and captions are, every angle bracket
that opens begins a tag of the vocabulary, and every ampersand begins an entity. -/
theorem assemble_markup_of_vocabulary (files : Files) (text : Text) (options : Options)
    (clean : ∀ image ∈ options.images, Plain image.mediaType.toList) :
    (∀ before after, (assemble files text options).toList = before ++ '<' :: after →
      ∃ tag, OwnTag (options.scope files) tag ∧ tag.render.toList <+: '<' :: after) ∧
    (∀ before after, (assemble files text options).toList = before ++ '&' :: after →
      ∃ entity ∈ entities, entity <+: '&' :: after) := by
  have media := Options.plain_mediaType_of_mem_scope files clean
  have body : AllSafe (options.scope files) (Markup.Body.ofText text).pieces :=
    (Markup.Body.ofText text).safe_pieces
  have safe := Page.safe_pieces (Markup.Body.ofText text).sections text body rfl
    fun image member => member
  constructor
  · intro before after written
    exact ownTag_of_render media safe written
  · intro before after written
    exact entity_of_render media safe written

/-- A document whose name and caption look like markup. -/
def hostileOptions : Options where
  name := "<script>&\"".toList
  theme := .standard
  logo := none
  cover := none
  defaultCover := none
  endPages := [⟨"image/svg+xml", .empty⟩]
  photos := [⟨⟨"image/png", .empty⟩, some "<img src=x>".toList⟩]
  date := ⟨2026, .october, 7⟩

theorem assemble_markup_of_hostile_options :
    (∀ image ∈ hostileOptions.images, Plain image.mediaType.toList) ∧
    let files : Files := ⟨fun _ => .error .notFound⟩
    let document := (assemble files "# <b>\n| <td> | &amp; |".toList hostileOptions).toList
    (∀ before after, document = before ++ '<' :: after →
      ∃ tag, OwnTag (hostileOptions.scope files) tag ∧ tag.render.toList <+: '<' :: after) ∧
    (∀ before after, document = before ++ '&' :: after →
      ∃ entity ∈ entities, entity <+: '&' :: after) := by
  have clean : ∀ image ∈ hostileOptions.images, Plain image.mediaType.toList := by decide
  exact ⟨clean, assemble_markup_of_vocabulary _ _ hostileOptions clean⟩

end EnergyReport.Document
