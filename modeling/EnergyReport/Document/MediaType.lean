import EnergyReport.Files.Path

namespace EnergyReport.Document

/-! Media types, guessed from the extension of a file name. -/

/-- A media type: its group and the format within the group. -/
structure MediaType where
  group : String
  format : String
  deriving Repr, DecidableEq

namespace MediaType

/-- The type as it is written in documents and messages. -/
def name (type : MediaType) : String :=
  type.group ++ "/" ++ type.format

def isImage (type : MediaType) : Bool :=
  type.group == "image"

/-- The type of bytes that nothing is known about. -/
def octetStream : MediaType := ⟨"application", "octet-stream"⟩

/-- The formats of the group `image` with their extensions. -/
def imageFormats : List (String × List String) := [
  ("apng", ["apng"]),
  ("avif", ["avif"]),
  ("bmp", ["bmp", "dib"]),
  ("cgm", ["cgm"]),
  ("cis-cod", ["cod"]),
  ("dng", ["dng"]),
  ("g3fax", ["g3"]),
  ("gif", ["gif"]),
  ("heic", ["heic"]),
  ("heic-sequence", ["heics"]),
  ("heif", ["heif"]),
  ("heif-sequence", ["heifs"]),
  ("ief", ["ief"]),
  ("jp2", ["jp2"]),
  ("jpeg", ["jfif", "jpe", "jpeg", "jpg"]),
  ("jxl", ["jxl"]),
  ("ktx", ["ktx"]),
  ("pict", ["pct", "pic", "pict"]),
  ("png", ["png", "pnz"]),
  ("prs.btif", ["btif"]),
  ("svg+xml", ["svg", "svgz"]),
  ("tiff", ["tif", "tiff"]),
  ("vnd.adobe.photoshop", ["psd"]),
  ("vnd.djvu", ["djv", "djvu"]),
  ("vnd.dwg", ["dwg"]),
  ("vnd.dxf", ["dxf"]),
  ("vnd.fst", ["fst"]),
  ("vnd.ms-modi", ["mdi"]),
  ("vnd.ms-photo", ["wdp"]),
  ("vnd.rn-realflash", ["rf"]),
  ("vnd.wap.wbmp", ["wbmp"]),
  ("webp", ["webp"]),
  ("x-cmu-raster", ["ras"]),
  ("x-cmx", ["cmx"]),
  ("x-freehand", ["fh", "fh4", "fh5", "fh7", "fhc"]),
  ("x-icon", ["ico"]),
  ("x-jg", ["art"]),
  ("x-macpaint", ["mac", "pnt", "pntg"]),
  ("x-mrsid-image", ["sid"]),
  ("x-pcx", ["pcx"]),
  ("x-portable-anymap", ["pnm"]),
  ("x-portable-bitmap", ["pbm"]),
  ("x-portable-graymap", ["pgm"]),
  ("x-portable-pixmap", ["ppm"]),
  ("x-quicktime", ["qti", "qtif"]),
  ("x-rgb", ["rgb"]),
  ("x-tga", ["tga"]),
  ("x-xbitmap", ["xbm"]),
  ("x-xpixmap", ["xpm"]),
  ("x-xwindowdump", ["xwd"])]

def applicationFormats : List (String × List String) := [
  ("atom+xml", ["atom"]),
  ("epub+zip", ["epub"]),
  ("gzip", ["gz"]),
  ("java-archive", ["jar"]),
  ("json", ["json", "map"]),
  ("manifest+json", ["webmanifest"]),
  ("mathematica", ["nb"]),
  ("msaccess", ["accdb", "accde"]),
  ("msword", ["doc", "dot", "wiz"]),
  ("octet-stream", ["bin"]),
  ("oda", ["oda"]),
  ("ogg", ["ogx"]),
  ("olescript", ["axs"]),
  ("onenote", ["one", "onetoc"]),
  ("pdf", ["pdf"]),
  ("pkcs7-mime", ["p7c", "p7m"]),
  ("postscript", ["ai", "eps", "ps"]),
  ("rdf+xml", ["rdf"]),
  ("rss+xml", ["rss"]),
  ("rtf", ["rtf"]),
  ("vnd.android.package-archive", ["apk"]),
  ("vnd.apple.installer+xml", ["mpkg"]),
  ("vnd.ms-cab-compressed", ["cab"]),
  ("vnd.ms-excel", ["xla", "xlc", "xls", "xlt"]),
  ("vnd.ms-fontobject", ["eot"]),
  ("vnd.ms-outlook", ["msg"]),
  ("vnd.ms-powerpoint", ["pot", "pps", "ppt"]),
  ("vnd.ms-xpsdocument", ["xps"]),
  ("vnd.oasis.opendocument.graphics", ["odg"]),
  ("vnd.oasis.opendocument.presentation", ["odp"]),
  ("vnd.oasis.opendocument.spreadsheet", ["ods"]),
  ("vnd.oasis.opendocument.text", ["odt"]),
  ("vnd.openxmlformats-officedocument.presentationml.presentation", ["pptx"]),
  ("vnd.openxmlformats-officedocument.spreadsheetml.sheet", ["xlsx"]),
  ("vnd.openxmlformats-officedocument.wordprocessingml.document", ["docx"]),
  ("vnd.visio", ["vsd"]),
  ("wasm", ["wasm"]),
  ("x-7z-compressed", ["7z"]),
  ("x-bzip", ["bz"]),
  ("x-bzip2", ["bz2"]),
  ("x-compress", ["z"]),
  ("x-csh", ["csh"]),
  ("x-dvi", ["dvi"]),
  ("x-gtar", ["gtar"]),
  ("x-latex", ["latex"]),
  ("x-msdownload", ["dll", "exe"]),
  ("x-rar-compressed", ["rar"]),
  ("x-sh", ["sh"]),
  ("x-shockwave-flash", ["swf"]),
  ("x-sql", ["sql"]),
  ("x-tar", ["tar"]),
  ("x-tcl", ["tcl"]),
  ("x-tex", ["tex"]),
  ("x-x509-ca-cert", ["cer", "crt", "der"]),
  ("xhtml+xml", ["xht", "xhtml"]),
  ("xml-dtd", ["dtd"]),
  ("xslt+xml", ["xslt"]),
  ("zip", ["zip"])]

def audioFormats : List (String × List String) := [
  ("aac", ["aac"]),
  ("aiff", ["aif", "aifc", "aiff"]),
  ("basic", ["au", "snd"]),
  ("flac", ["flac"]),
  ("m4a", ["m4a"]),
  ("mid", ["mid", "midi", "rmi"]),
  ("mpeg", ["mp3"]),
  ("ogg", ["oga", "ogg", "opus"]),
  ("wav", ["wav", "wave"]),
  ("x-ms-wma", ["wma"])]

def fontFormats : List (String × List String) := [
  ("otf", ["otf"]),
  ("ttf", ["ttf"]),
  ("woff", ["woff"]),
  ("woff2", ["woff2"])]

def messageFormats : List (String × List String) := [
  ("rfc822", ["eml", "mht", "mhtml"])]

def textFormats : List (String × List String) := [
  ("cache-manifest", ["appcache"]),
  ("calendar", ["ics"]),
  ("css", ["css"]),
  ("csv", ["csv"]),
  ("html", ["hta", "htm", "html"]),
  ("javascript", ["js", "mjs"]),
  ("markdown", ["markdown", "md"]),
  ("plain",
    ["asc", "asm", "bas", "c", "cc", "conf", "cpp", "cs", "cxx", "def", "h", "hpp", "hxx", "in",
      "ini", "java", "list", "log", "pl", "py", "text", "txt", "vb"]),
  ("richtext", ["rtx"]),
  ("tab-separated-values", ["tsv"]),
  ("vcard", ["vcard"]),
  ("vtt", ["vtt"]),
  ("x-toml", ["toml"]),
  ("x-yaml", ["yaml", "yml"]),
  ("xml", ["xml", "xsd", "xsl"])]

def videoFormats : List (String × List String) := [
  ("3gpp", ["3gp", "3gpp"]),
  ("3gpp2", ["3g2", "3gp2"]),
  ("mp4", ["m4v", "mp4", "mp4v"]),
  ("mpeg", ["m1v", "m2v", "mpa", "mpe", "mpeg", "mpg"]),
  ("ogg", ["ogv"]),
  ("quicktime", ["mov", "mqv", "qt"]),
  ("vnd.dlna.mpeg-tts", ["ts", "tts"]),
  ("webm", ["webm"]),
  ("x-flv", ["flv"]),
  ("x-matroska", ["mkv"]),
  ("x-ms-asf", ["asf", "asr", "asx"]),
  ("x-ms-wmv", ["wmv"]),
  ("x-msvideo", ["avi"])]

def groups : List (String × List (String × List String)) := [
  ("image", imageFormats),
  ("application", applicationFormats),
  ("audio", audioFormats),
  ("font", fontFormats),
  ("message", messageFormats),
  ("text", textFormats),
  ("video", videoFormats)]

/-- The type of the files with an extension, in any case of ASCII letters. -/
def ofExtension? (extension : Text) : Option MediaType :=
  let folded := String.ofList (extension.map Char.toLower)
  groups.findSome? fun (group, formats) =>
    (formats.find? fun (_, extensions) => extensions.contains folded).map fun (format, _) =>
      ⟨group, format⟩

/-- The type that the name of a file suggests. -/
def ofPath (path : Path) : MediaType :=
  ((Path.extension? path).bind ofExtension?).getD octetStream

end MediaType

end EnergyReport.Document
