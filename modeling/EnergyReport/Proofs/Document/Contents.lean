import EnergyReport.Proofs.Document.Reading
import EnergyReport.Proofs.Document.Surroundings
import EnergyReport.Proofs.Markup.Banner
import Mathlib.Data.List.Nodup

namespace EnergyReport.Document

open Html Markup

/-! The table of contents of a document lists the banners of its body, and nothing else in the
document looks like one of the two. -/

/-- How the links of a table of contents are marked. -/
def linkKind : EntryKind where
  entry := "sommaire-item"
  target := "href"
  number := "sommaire-number"
  title := "sommaire-text"

/-- What the link to a section says. -/
def linkEntry (sec : Markup.Section) : Html.Entry :=
  ⟨some ("#" ++ sec.anchor), sec.label.toList, escape sec.title⟩

/-- A link leads to a banner and says what the banner says, but for the point after the number. -/
structure LeadsTo (link banner : Html.Entry) : Prop where
  target : ∃ name, banner.target = some name ∧ link.target = some ("#" ++ name)
  number : banner.number = link.number ++ ['.']
  title : link.title = banner.title

theorem leadsTo_banner (sec : Markup.Section) : LeadsTo (linkEntry sec) sec.bannerEntry :=
  ⟨⟨sec.anchor, rfl, rfl⟩, rfl, rfl⟩

namespace Page

theorem entries_contentsEntry (sec : Markup.Section) (rest : List Token) :
    entries linkKind ((contentsEntry sec).flatMap Piece.tokens ++ rest) =
      linkEntry sec :: entries linkKind rest := by
  have isEntry : hasClass linkKind.entry
      [("class", "sommaire-item"), ("href", "#" ++ sec.anchor)] := by
    simp only [hasClass_cons]
    decide
  have read := @entries_element linkKind "a" "span" _ _ sec.title isEntry (plain_label sec)
    ([newline].flatMap Piece.tokens ++ rest)
  have lineEnd :
      entries linkKind ([newline].flatMap Piece.tokens ++ rest) = entries linkKind rest :=
    entries_pieces linkKind (by decide) ordinary_newline.allOutside rest
  rw [lineEnd] at read
  rw [contentsEntry, lineElement, List.flatMap_append, List.append_assoc]
  exact read

/-- What stands before the links of a table of contents, after the tag that begins it. -/
def contentsHeading : List Piece :=
  [newline] ++ lineElement "h1" [("class", "sommaire-title")] [.verbatim "SOMMAIRE"] ++
    [.opening "div" [("class", "sommaire-items")], newline]

def contentsEnd : List Piece :=
  [.closing "div", newline, .closing "div", newline]

theorem contents_eq {sections : List Markup.Section} (nonempty : sections ≠ []) :
    contents sections = [.opening "div" [("class", "sommaire-page")]] ++
      (contentsHeading ++ (sections.flatMap contentsEntry ++ contentsEnd)) := by
  simp [contents, contentsHeading, contentsEnd, nonempty, container, lineElement, element]

theorem allOutside_contentsHeading : AllOutside contentsClasses contentsHeading := by
  have heading :
      Ordinary (lineElement "h1" [("class", "sommaire-title")] [.verbatim "SOMMAIRE"]) :=
    ordinary_lineElement (by decide) (by decide) (.verbatim (by decide))
  have items : ∀ one ∈ contentsClasses, hasClass one [("class", "sommaire-items")] = false := by
    decide
  simpa [contentsHeading, isOutside_newline, heading.allOutside] using items

theorem allOutside_contentsEnd : AllOutside contentsClasses contentsEnd := by
  simp [contentsEnd, isOutside_newline]

/-- Links neither are banners nor begin a page of links. -/
theorem allOutside_links (sections : List Markup.Section) :
    AllOutside ["section-separator", "sommaire-page"] (sections.flatMap contentsEntry) := by
  refine .flatMap fun sec _ => ?_
  have outer : ∀ one ∈ ["section-separator", "sommaire-page"],
      hasClass one [("class", "sommaire-item"), ("href", "#" ++ sec.anchor)] = false := by
    simp only [hasClass_cons]
    decide
  have inner : ∀ name ∈ ["sommaire-number", "sommaire-text"],
      ∀ one ∈ ["section-separator", "sommaire-page"], hasClass one [("class", name)] = false := by
    decide
  have lineEnd : newline.IsOutside ["section-separator", "sommaire-page"] :=
    isOutside_verbatim (by decide)
  simp [contentsEntry, lineElement, textElement, outer, inner, lineEnd,
    isOutside_verbatim (plain_label sec)]

theorem entries_contents (sections : List Markup.Section) (rest : List Token) :
    entries linkKind ((contents sections).flatMap Piece.tokens ++ rest) =
      sections.map linkEntry ++ entries linkKind rest := by
  have links (rest : List Token) :
      entries linkKind ((sections.flatMap contentsEntry).flatMap Piece.tokens ++ rest) =
        sections.map linkEntry ++ entries linkKind rest := by
    induction sections with
    | nil => rfl
    | cons sec others ih =>
        rw [List.flatMap_cons, List.flatMap_append, List.append_assoc, entries_contentsEntry, ih]
        rfl
  by_cases empty : sections = []
  · rw [empty]
    rfl
  · have page : AllOutside ["sommaire-item"] [.opening "div" [("class", "sommaire-page")]] := by
      have differs : hasClass "sommaire-item" [("class", "sommaire-page")] = false := by decide
      simp [differs]
    rw [contents_eq empty]
    simp only [List.flatMap_append, List.append_assoc]
    rw [entries_pieces _ (by decide) page, entries_pieces _ (by decide) allOutside_contentsHeading,
      links, entries_pieces _ (by decide) allOutside_contentsEnd]

/-- No banner stands in a table of contents. -/
theorem allOutside_contents (sections : List Markup.Section) :
    AllOutside ["section-separator"] (contents sections) := by
  by_cases empty : sections = []
  · rw [empty]
    exact allOutside_nil
  · have page : hasClass "section-separator" [("class", "sommaire-page")] = false := by decide
    have among : ["section-separator"] ⊆ contentsClasses := by decide
    have heading := allOutside_contentsHeading.mono among
    have links : AllOutside ["section-separator"] (sections.flatMap contentsEntry) :=
      (allOutside_links sections).mono (by decide)
    have ending := allOutside_contentsEnd.mono among
    rw [contents_eq empty]
    simp [page, heading, links, ending]

/-- A table of contents is one page, unless there are no sections. -/
theorem countP_contents (sections : List Markup.Section) :
    ((contents sections).flatMap Piece.tokens).countP (Token.begins "sommaire-page") =
      if sections = [] then 0 else 1 := by
  split
  case isTrue empty =>
      rw [empty]
      rfl
  case isFalse nonempty =>
      have page : hasClass "sommaire-page" [("class", "sommaire-page")] = true := by decide
      rw [contents_eq nonempty]
      simp only [List.flatMap_append, List.countP_append]
      rw [countP_begins_pieces (by decide) allOutside_contentsHeading,
        countP_begins_pieces (by decide) (allOutside_links sections),
        countP_begins_pieces (by decide) allOutside_contentsEnd]
      simp [Piece.tokens, Token.begins, page]

end Page

/-! ### The whole document -/

section WholeDocument

variable (files : Files) (text : Text) (options : Options)

/-- The tags and characters that the pieces of a document are. -/
def documentTokens : List Token :=
  let body := Body.ofText text
  (Page.pieces body.pieces body.sections (Report.Summary.ofText text) options
    (options.coverImage? files)).flatMap Piece.tokens

theorem tokens_assemble (clean : ∀ image ∈ options.images, Plain image.mediaType.toList) :
    tokens (assemble files text options).toList = documentTokens files text options := by
  have media := Options.plain_mediaType_of_mem_scope files clean
  have body : AllSafe (options.scope files) (Body.ofText text).pieces :=
    (Body.ofText text).safe_pieces
  exact (Page.safe_pieces (Body.ofText text).sections text body rfl
    fun image member => member).tokens_render media

theorem documentTokens_eq :
    documentTokens files text options =
      (Page.beforeContents options (options.coverImage? files)).flatMap Piece.tokens ++
        ((Page.contents (Body.ofText text).sections).flatMap Piece.tokens ++
          ((Page.beforeBody (Report.Summary.ofText text) options).flatMap Piece.tokens ++
            ((Body.ofText text).pieces.flatMap Piece.tokens ++
              ((Page.afterBody options).flatMap Piece.tokens ++ [])))) := by
  simp [documentTokens, Page.pieces_eq]

theorem entries_link_document :
    entries linkKind (documentTokens files text options) =
      (Body.ofText text).sections.map linkEntry := by
  rw [documentTokens_eq, entries_pieces _ (by decide) (Page.allOutside_beforeContents options _),
    Page.entries_contents, entries_pieces _ (by decide) (Page.allOutside_beforeBody options text),
    entries_pieces _ (by decide) (Body.ofText text).allOutside_pieces,
    entries_pieces _ (by decide) (Page.allOutside_afterBody options)]
  simp [entries]

theorem entries_banner_document :
    entries Markup.Section.bannerKind (documentTokens files text options) =
      (Body.ofText text).sections.map Markup.Section.bannerEntry := by
  rw [documentTokens_eq, entries_pieces _ (by decide) (Page.allOutside_beforeContents options _),
    entries_pieces _ (by decide) (Page.allOutside_contents _),
    entries_pieces _ (by decide) (Page.allOutside_beforeBody options text),
    Body.entries_pieces, entries_pieces _ (by decide) (Page.allOutside_afterBody options)]
  simp [entries]

theorem countP_contents_document :
    (documentTokens files text options).countP (Token.begins "sommaire-page") =
      if (Body.ofText text).sections = [] then 0 else 1 := by
  rw [documentTokens_eq]
  simp only [List.countP_append]
  rw [countP_begins_pieces (by decide) (Page.allOutside_beforeContents options _),
    Page.countP_contents,
    countP_begins_pieces (by decide) (Page.allOutside_beforeBody options text),
    countP_begins_pieces (by decide) (Body.ofText text).allOutside_pieces,
    countP_begins_pieces (by decide) (Page.allOutside_afterBody options)]
  simp

end WholeDocument

/-! ### Contents and body -/

/-- The banners that the page of a report shows. -/
def bodyBanners (text : Text) : List Html.Entry :=
  entries Markup.Section.bannerKind (tokens (render (Body.ofText text).pieces).toList)

/-- The links in the table of contents of a report. -/
def contentsLinks (text : Text) : List Html.Entry :=
  entries linkKind (tokens (render (Page.contents (Body.ofText text).sections)).toList)

/-- The document of a text with its table of contents, and the body of the text, agree. -/
structure ContentsAgree (files : Files) (text : Text) (options : Options) : Prop where
  /-- The sections are the headings outside of callouts. -/
  titled : (Body.ofText text).sections.map Markup.Section.title = titles text
  numbered : (Body.ofText text).sections.map Markup.Section.number =
    List.range' 1 (titles text).length
  banners : bodyBanners text = (Body.ofText text).sections.map Markup.Section.bannerEntry
  distinct : ((bodyBanners text).map Html.Entry.target).Nodup
  /-- Every banner has its link, in the order of the banners, and there are no other links. -/
  links : List.Forall₂ LeadsTo (contentsLinks text) (bodyBanners text)
  place : assemble files text options =
    render (Page.beforeContents options (options.coverImage? files)) ++
      render (Page.contents (Body.ofText text).sections) ++
        render (Page.beforeBody (Report.Summary.ofText text) options ++
          ((Body.ofText text).pieces ++ Page.afterBody options))
  absent : render (Page.contents (Body.ofText text).sections) = "" ↔ titles text = []
  /-- The rest of the document has no links or banners besides these, and no second page of
  links. -/
  whole : entries linkKind (documentTokens files text options) = contentsLinks text ∧
    entries Markup.Section.bannerKind (documentTokens files text options) = bodyBanners text ∧
    (documentTokens files text options).countP (Token.begins "sommaire-page") =
      if titles text = [] then 0 else 1
  /-- The document is read so, unless an image brings tags along in the name of its media
  type. -/
  read : (∀ image ∈ options.images, Plain image.mediaType.toList) →
    tokens (assemble files text options).toList = documentTokens files text options

theorem bodyBanners_eq (text : Text) :
    bodyBanners text = (Body.ofText text).sections.map Markup.Section.bannerEntry := by
  have read := (Body.ofText text).entries_pieces []
  rw [List.append_nil, ← Body.tokens_render] at read
  simpa [entries, bodyBanners] using read

theorem contentsLinks_eq (text : Text) :
    contentsLinks text = (Body.ofText text).sections.map linkEntry := by
  have safe : AllSafe ⟨⟨0, 0, 0⟩, []⟩ (Page.contents (Body.ofText text).sections) :=
    Page.safe_contents _
  have read := Page.entries_contents (Body.ofText text).sections []
  rw [List.append_nil, ← safe.tokens_render (by simp)] at read
  simpa [entries, contentsLinks] using read

theorem sections_eq_nil_iff (text : Text) :
    (Body.ofText text).sections = [] ↔ titles text = [] := by
  rw [← List.length_eq_zero_iff, Body.length_sections, List.length_eq_zero_iff]

theorem render_contents_eq_empty_iff (sections : List Markup.Section) :
    render (Page.contents sections) = "" ↔ sections = [] := by
  constructor
  · intro empty
    by_contra nonempty
    have begins := congrArg String.toList empty
    simp [Page.contents_eq nonempty, toList_render, Piece.render] at begins
  · rintro rfl
    rfl

/-- The table of contents of every document has a link to each banner of its body, in their
order and with the same number and the same title. Numbers suffice for 2^32 - 1 sections. -/
theorem contentsAgree_assemble (files : Files) (text : Text) (options : Options)
    (few : (titles text).length ≤ Markup.Section.greatestNumber) :
    ContentsAgree files text options := by
  have fits : 0 + (titles text).length ≤ Markup.Section.greatestNumber := by omega
  have numbered : (Body.ofText text).sections.map Markup.Section.number =
      List.range' 1 (titles text).length := by
    rw [Body.sections_ofText]
    exact Markup.Section.map_number_numberedFrom fits
  have names : ((Body.ofText text).sections.map Markup.Section.anchor).Nodup :=
    Markup.Section.nodup_anchors (numbered ▸ List.nodup_range')
  have targets : (bodyBanners text).map Html.Entry.target =
      ((Body.ofText text).sections.map Markup.Section.anchor).map some := by
    rw [bodyBanners_eq, List.map_map, List.map_map]
    rfl
  constructor
  case titled => rw [Body.sections_ofText, Markup.Section.map_title_numberedFrom]
  case numbered => exact numbered
  case banners => exact bodyBanners_eq text
  case distinct =>
    rw [targets]
    exact List.Nodup.map (fun _ _ same => Option.some.inj same) names
  case links =>
    rw [contentsLinks_eq, bodyBanners_eq, List.forall₂_map_left_iff, List.forall₂_map_right_iff]
    exact List.forall₂_same.mpr fun sec _ => leadsTo_banner sec
  case place =>
    simp only [assemble, Page.pieces_eq, render_append, String.append_assoc]
  case absent => rw [render_contents_eq_empty_iff, sections_eq_nil_iff]
  case whole =>
    rw [entries_link_document, entries_banner_document, countP_contents_document,
      contentsLinks_eq, bodyBanners_eq]
    simp [sections_eq_nil_iff]
  case read => exact tokens_assemble files text options

theorem contentsAgree_of_hiddenTitle :
    let text := "# Un\n:::info\n# Masqué\n:::\n# Un".toList
    let files : Files := ⟨fun _ => .error .notFound⟩
    (titles text).length = 2 ∧ ContentsAgree files text hostileOptions := by
  have count : (titles "# Un\n:::info\n# Masqué\n:::\n# Un".toList).length = 2 := by
    rw [← Body.length_sections]
    decide
  exact ⟨count, contentsAgree_assemble _ _ hostileOptions (by rw [count]; decide)⟩

end EnergyReport.Document
