import EnergyReport.Binary.Base64
import EnergyReport.Document.MediaType
import EnergyReport.Files.Basic
import EnergyReport.Text.Quoted

namespace EnergyReport.Document

/-! Images, which a report holds in itself as data links. -/

structure Image where
  mediaType : String
  content : ByteArray

inductive ImageError where
  | unreadable (path : Path) (reason : FileError)
  /-- The extension of the file does not stand for an image. -/
  | notAnImage (path : Path) (mediaType : MediaType)

def ImageError.message : ImageError → String
  | .unreadable path reason => s!"Failed to read {String.ofList path}: {reason.message}"
  | .notAnImage path mediaType => s!"{String.ofList path} is not an image ({mediaType.name})"

namespace Image

/-- The image in a file. Its type is known by the extension, before the file is read. -/
def load (files : Files) (path : Path) : Except ImageError Image :=
  let mediaType := MediaType.ofPath path
  if mediaType.isImage then
    match files.read path with
    | .ok content => .ok ⟨mediaType.name, content⟩
    | .error reason => .error (.unreadable path reason)
  else .error (.notAnImage path mediaType)

/-- The image in a file, or nothing where there is none. -/
def load? (files : Files) (path : Path) : Option Image :=
  match load files path with
  | .ok image => some image
  | .error _ => none

/-- The link that holds the image itself. -/
def dataUri (image : Image) : String :=
  "data:" ++ image.mediaType ++ ";base64," ++
    String.ofList (Binary.base64 image.content.toList)

/-- The image without its content, for diagnoses. -/
def describe (image : Image) : String :=
  "ImageAsset \x7b mime: " ++ String.ofList (Text.quoted image.mediaType.toList) ++ ", len: " ++
    toString image.content.size ++ " \x7d"

end Image

structure Photo where
  image : Image
  caption : Option Text

end EnergyReport.Document
