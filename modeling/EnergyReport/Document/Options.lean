import EnergyReport.Color.Theme
import EnergyReport.Document.Date
import EnergyReport.Document.Image

namespace EnergyReport.Document

/-! What surrounds the text of a report. -/

structure Options where
  name : Text
  theme : Theme
  logo : Option Image
  /-- Image of the cover; it wins over the default cover. -/
  cover : Option Image
  /-- File of the cover that is used when there is no other. -/
  defaultCover : Option Path
  /-- Full-page images at the end. -/
  endPages : List Image
  photos : List Photo
  date : Date

/-- The image of the cover: the chosen one, else the one in the default file. A file that
gives no image means no cover. -/
def Options.coverImage? (options : Options) (files : Files) : Option Image :=
  match options.cover with
  | some image => some image
  | none => options.defaultCover.bind (Image.load? files)

end EnergyReport.Document
