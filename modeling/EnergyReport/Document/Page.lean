import EnergyReport.Document.Options
import EnergyReport.Document.Stylesheet
import EnergyReport.Markup.Reading
import EnergyReport.Report.Summary

namespace EnergyReport.Document

/-! The complete document around the body of a report. -/

namespace Page

open Html

/-- The rule that gives the colors of a theme their names. -/
def themeRule (theme : Theme) : StyleRule :=
  let hex (color : Rgb) : String := String.ofList color.toHex
  .block ":root"
    [("--primary", hex theme.primary), ("--secondary", hex theme.secondary),
      ("--light", hex theme.light), ("--very-light", hex theme.veryLight),
      ("--faint", hex theme.faint), ("--primary-translucent", hex theme.primary ++ "33")]

/-- An element followed by a line end. -/
def lineElement (tag : String) (attributes : List Attribute) (content : List Piece) :
    List Piece :=
  element tag attributes content ++ [newline]

/-- An element over several lines, followed by a line end. -/
def container (tag : String) (attributes : List Attribute) (content : List Piece) :
    List Piece :=
  lineElement tag attributes (newline :: content)

def image (image : Image) (description : String) (attributes : List Attribute) : Piece :=
  .selfClosed "img" ([("src", image.dataUri), ("alt", description)] ++ attributes)

def head (theme : Theme) : List Piece :=
  container "head" []
    ([.void "meta" [("charset", "UTF-8")], newline] ++
      lineElement "title" [] [.verbatim "DPE Simplifié"] ++
      container "style" [] [.verbatim ((themeRule theme).render ++ Stylesheet.text)])

def imagePage (className : String) (picture : Image) (description : String) : List Piece :=
  lineElement "div" [("class", className)] [image picture description []]

def cover : Option Image → List Piece
  | some picture => imagePage "cover-page" picture "Couverture"
  | none => []

def contentsEntry (sec : Markup.Section) : List Piece :=
  lineElement "a" [("class", "sommaire-item"), ("href", "#" ++ sec.anchor)]
    (element "span" [("class", "sommaire-number")] [.verbatim sec.label] ++
      textElement "span" [("class", "sommaire-text")] sec.title)

/-- The table of contents; without sections there is none. -/
def contents (sections : List Markup.Section) : List Piece :=
  if sections.isEmpty then []
  else
    container "div" [("class", "sommaire-page")]
      (lineElement "h1" [("class", "sommaire-title")] [.verbatim "SOMMAIRE"] ++
        container "div" [("class", "sommaire-items")] (sections.flatMap contentsEntry))

def logo : Option Image → List Piece
  | some picture => [image picture "Logo" [("class", "header-logo")], newline]
  | none => []

def header (options : Options) : List Piece :=
  container "div" [("class", "header")]
    (element "div" [("class", "deco-1")] [] ++ element "div" [("class", "deco-2")] [] ++
      lineElement "div" [("class", "deco-3")] [] ++
      logo options.logo ++
      container "div" [("class", "header-content")]
        (lineElement "div" [("class", "badge")] [.verbatim "Rapport Énergétique"] ++
          lineElement "h1" [] [.verbatim "Votre DPE Simplifié"] ++
          lineElement "p" [] [.verbatim "Basé sur : ", .text options.name]))

/-- A caption; an empty one is left out. -/
def caption : Option Text → List Piece
  | some (c :: rest) => textElement "p" [("class", "photo-caption")] (c :: rest)
  | _ => []

/-- The photo with a number, counted from one. -/
def photo (entry : Photo × Nat) : List Piece :=
  lineElement "div" [("class", "photo-item")]
    (image entry.1.image s!"Photo {entry.2}" [] :: caption entry.1.caption)

def gallery (photos : List Photo) : List Piece :=
  if photos.isEmpty then []
  else
    container "div" [("class", "photos-section")]
      (lineElement "h2" [] [.verbatim "📸 Photos du bâtiment"] ++
        container "div" [("class", "photo-grid")] ((photos.zipIdx 1).flatMap photo))

def footer (date : Date) : List Piece :=
  container "div" [("class", "footer")]
    (lineElement "p" []
        [.verbatim
          ("Ce document a été généré automatiquement par DPE Simplifié le " ++ date.inFrench ++
            ".")] ++
      lineElement "p" []
        [.verbatim "Veuillez vérifier le contenu avant de le transmettre à votre client."])

/-- The image at the end with a number, counted from one. -/
def endPage (entry : Image × Nat) : List Piece :=
  imagePage "end-page" entry.1 s!"Page de fin {entry.2}"

/-- The document around a body that is already written, with the sections for the table of
contents. -/
def pieces (body : List Piece) (sections : List Markup.Section) (summary : Report.Summary)
    (options : Options) (coverImage : Option Image) : List Piece :=
  [.verbatim "<!DOCTYPE html>", newline] ++
    container "html" [("lang", "fr")]
      (head options.theme ++
        container "body" []
          (cover coverImage ++ contents sections ++ header options ++
            container "div" [("class", "body")]
              (summary.pieces (String.ofList options.theme.primary.toHex) ++ body ++ [newline] ++
                gallery options.photos) ++
            footer options.date ++
            (options.endPages.zipIdx 1).flatMap endPage))

end Page

/-- The document of a report text. The key figures come from the same text as the body. -/
def assemble (files : Files) (text : Text) (options : Options) : String :=
  let body := Markup.Body.ofText text
  Html.render
    (Page.pieces body.pieces body.sections (Report.Summary.ofText text) options
      (options.coverImage? files))

end EnergyReport.Document
