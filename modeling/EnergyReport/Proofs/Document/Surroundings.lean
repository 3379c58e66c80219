import EnergyReport.Proofs.Document.Ordinary
import EnergyReport.Proofs.Document.Safety

namespace EnergyReport.Document

open Html

/-! What stands around the body of a document and its table of contents. Whatever the options
are, it holds neither lists nor anything that looks like a banner or like a link to one. -/

namespace Page

theorem ordinary_newline : Ordinary [newline] := .verbatim (by decide)

section Elements

variable {tag : String} {attributes : List Attribute} {content : List Piece}

theorem ordinary_lineElement (ordinary : isOrdinaryTag tag) (outside : isOrdinary attributes)
    (inside : Ordinary content) : Ordinary (lineElement tag attributes content) :=
  .append (.element ordinary outside inside) ordinary_newline

theorem ordinary_container (ordinary : isOrdinaryTag tag) (outside : isOrdinary attributes)
    (inside : Ordinary content) : Ordinary (container tag attributes content) :=
  ordinary_lineElement ordinary outside (ordinary_newline.cons inside)

end Elements

theorem ordinary_image (picture : Image) (description : String) (attributes : List Attribute) :
    Ordinary [image picture description attributes] :=
  .selfClosed _ (by decide)

theorem ordinary_head (theme : Theme) : Ordinary (head theme) := by
  have style : Plain ((themeRule theme).render ++ Stylesheet.text).toList := by
    simp only [String.toList_append, Plain.append, plain_themeRule, Stylesheet.plain_text, and_self]
  refine ordinary_container (by decide) (by decide) (.append (.append ?_ ?_) ?_)
  · exact Ordinary.cons (.void _ (by decide)) ordinary_newline
  · exact ordinary_lineElement (by decide) (by decide) (.verbatim (by decide))
  · exact ordinary_container (by decide) (by decide) (.verbatim style)

theorem ordinary_imagePage {className : String} (outside : isOrdinary [("class", className)])
    (picture : Image) (description : String) :
    Ordinary (imagePage className picture description) :=
  ordinary_lineElement (by decide) outside (ordinary_image picture description [])

theorem ordinary_cover (picture : Option Image) : Ordinary (cover picture) := by
  cases picture with
  | none => exact .nil
  | some picture => exact ordinary_imagePage (by decide) picture _

theorem ordinary_logo (picture : Option Image) : Ordinary (logo picture) := by
  cases picture with
  | none => exact .nil
  | some picture => exact (ordinary_image picture _ _).append ordinary_newline

theorem ordinary_header (options : Options) : Ordinary (header options) := by
  have box {name : String} (outside : isOrdinary [("class", name)]) :
      Ordinary (element "div" [("class", name)] []) :=
    .element (by decide) outside .nil
  refine ordinary_container (by decide) (by decide)
    (.append (.append (.append (.append ?_ ?_) ?_) (ordinary_logo _)) ?_)
  · exact box (by decide)
  · exact box (by decide)
  · exact ordinary_lineElement (by decide) (by decide) .nil
  · refine ordinary_container (by decide) (by decide) (.append (.append ?_ ?_) ?_)
    · exact ordinary_lineElement (by decide) (by decide) (.verbatim (by decide))
    · exact ordinary_lineElement (by decide) (by decide) (.verbatim (by decide))
    · exact ordinary_lineElement (by decide) (by decide)
        (Ordinary.cons (.verbatim (by decide)) (.text options.name))

theorem ordinary_caption (text : Option Text) : Ordinary (caption text) := by
  unfold caption
  split
  · exact .element (by decide) (by decide) (.text _)
  · exact .nil

theorem ordinary_gallery (photos : List Photo) : Ordinary (gallery photos) := by
  unfold gallery
  split
  · exact .nil
  · refine ordinary_container (by decide) (by decide) (.append ?_ ?_)
    · exact ordinary_lineElement (by decide) (by decide) (.verbatim (by decide))
    · refine ordinary_container (by decide) (by decide) (.flatMap fun entry _ => ?_)
      exact ordinary_lineElement (by decide) (by decide)
        ((ordinary_image _ _ _).cons (ordinary_caption _))

theorem ordinary_footer (date : Date) : Ordinary (footer date) := by
  have day : Plain ("Ce document a été généré automatiquement par DPE Simplifié le " ++
      date.inFrench ++ ".").toList := by
    simp only [String.toList_append, Plain.append, plain_inFrench]
    decide
  refine ordinary_container (by decide) (by decide) (.append ?_ ?_)
  · exact ordinary_lineElement (by decide) (by decide) (.verbatim day)
  · exact ordinary_lineElement (by decide) (by decide) (.verbatim (.of_bytes (by decide)))

theorem ordinary_endPages (pages : List Image) :
    Ordinary ((pages.zipIdx 1).flatMap endPage) :=
  .flatMap fun entry _ => ordinary_imagePage (by decide) entry.1 _

end Page

theorem ordinary_optionalItem {name : String} {value : List Attribute} {unit : Text}
    {figure : Option Text} (outside : isOrdinary value) (plainName : Plain name.toList)
    (plainUnit : Plain unit) (plain : ∀ content, figure = some content → Plain content) :
    Ordinary (Report.Summary.optionalItem name value unit figure) := by
  cases figure with
  | none => exact .nil
  | some content =>
      have inside : Plain (String.ofList (content ++ unit)).toList := by
        simp [plain content rfl, plainUnit]
      refine .append (.element (by decide) (by decide) (.append ?_ ?_))
        Page.ordinary_newline
      · exact .element (by decide) (by decide) (.verbatim plainName)
      · exact .element (by decide) outside (.verbatim inside)

theorem ordinary_summary (text : Text) (primary : String) :
    Ordinary ((Report.Summary.ofText text).pieces primary) := by
  have plain := Report.Summary.plain_figures text
  simp only [Report.Summary.figures, List.forall_mem_append, Option.mem_toList] at plain
  obtain ⟨⟨⟨grade, surface⟩, year⟩, cost⟩ := plain
  have emphasised : isOrdinary [("class", "summary-value summary-value-large"),
      ("style", "color: " ++ primary)] := by
    rw [isOrdinary_cons]
    decide
  refine .append (.element (by decide) (by decide) (.append (.append (.append (.append
    Page.ordinary_newline ?_) Page.ordinary_newline) ?_) Page.ordinary_newline))
    Page.ordinary_newline
  · exact .element (by decide) (by decide) (.verbatim (by decide))
  · refine .element (by decide) (by decide)
      (.append (.append (.append (.append Page.ordinary_newline ?_) ?_) ?_) ?_)
    · exact ordinary_optionalItem emphasised (by decide) .nil grade
    · exact ordinary_optionalItem (by decide) (by decide) (by decide) surface
    · exact ordinary_optionalItem (by decide) (by decide) .nil year
    · exact ordinary_optionalItem (by decide) (by decide) (by decide) cost

namespace Page

/-- What stands before the table of contents. -/
def beforeContents (options : Options) (coverImage : Option Image) : List Piece :=
  [.verbatim "<!DOCTYPE html>", newline, .opening "html" [("lang", "fr")], newline] ++
    head options.theme ++ [.opening "body" [], newline] ++ cover coverImage

/-- What stands between the table of contents and the body. -/
def beforeBody (summary : Report.Summary) (options : Options) : List Piece :=
  header options ++ [.opening "div" [("class", "body")], newline] ++
    summary.pieces (String.ofList options.theme.primary.toHex)

def afterBody (options : Options) : List Piece :=
  [newline] ++ gallery options.photos ++ [.closing "div", newline] ++ footer options.date ++
    (options.endPages.zipIdx 1).flatMap endPage ++
    [.closing "body", newline, .closing "html", newline]

theorem pieces_eq (body : List Piece) (sections : List Markup.Section) (summary : Report.Summary)
    (options : Options) (coverImage : Option Image) :
    pieces body sections summary options coverImage =
      beforeContents options coverImage ++ (contents sections ++
        (beforeBody summary options ++ (body ++ afterBody options))) := by
  simp [pieces, beforeContents, beforeBody, afterBody, container, lineElement, element]

variable (options : Options)

theorem isOutside_newline : newline.IsOutside contentsClasses := isOutside_verbatim (by decide)

theorem allOutside_beforeContents (coverImage : Option Image) :
    AllOutside contentsClasses (beforeContents options coverImage) := by
  have documentType : (Piece.verbatim "<!DOCTYPE html>").IsOutside contentsClasses := by
    have read : tokens "<!DOCTYPE html>".toList = [.tag .declaration] := by decide
    simp [Piece.IsOutside, Piece.tokens, read, -String.reduceToList]
  have language : ∀ one ∈ contentsClasses, hasClass one [("lang", "fr")] = false := by decide
  have classless : ∀ one ∈ contentsClasses, hasClass one [] = false := by decide
  simpa [beforeContents, documentType, isOutside_newline, (ordinary_head options.theme).allOutside,
    (ordinary_cover coverImage).allOutside] using ⟨language, classless⟩

theorem allOutside_beforeBody (text : Text) :
    AllOutside contentsClasses (beforeBody (Report.Summary.ofText text) options) := by
  have body : ∀ one ∈ contentsClasses, hasClass one [("class", "body")] = false := by decide
  simpa [beforeBody, isOutside_newline, (ordinary_header options).allOutside,
    (ordinary_summary text _).allOutside] using body

theorem allOutside_afterBody : AllOutside contentsClasses (afterBody options) := by
  simp [afterBody, isOutside_newline, (ordinary_gallery options.photos).allOutside,
    (ordinary_footer options.date).allOutside, (ordinary_endPages options.endPages).allOutside]

end Page

end EnergyReport.Document
