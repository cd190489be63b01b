import FrameTransition.Frame
import FrameTransition.Image.Netpbm
import FrameTransition.Session

/-!
# Opening an image

The extension of its name says which format an image has, in any case of letters. The file is read
first, so a missing file is missing whatever it is called; a directory is reported as one when its name
promises a format, since only then anything would be read from it. Of the formats the Netpbm family is
taken apart here, as far as the size; what pixels a picture has and how one is written is up to a
`Library`.
-/

namespace FrameTransition.Image

/-- The extensions of the Netpbm family. -/
def netpbmExtensions : List String := ["pbm", "pgm", "ppm", "pnm", "pam"]

/-- The extensions of all formats that images come in. -/
def knownExtensions : List String :=
  netpbmExtensions ++
    ["png", "apng", "jpg", "jpeg", "jfif", "gif", "webp", "tif", "tiff", "tga", "dds", "bmp", "ico",
      "hdr", "ff"]

/-- The extension of a path in lower case is one of a list. -/
def hasExtension (path : Path) (extensions : List String) : Bool :=
  match path.extension? with
  | some extension => extensions.contains (String.ofList (extension.map Char.toLower))
  | none => false

/-- The size of the image that a path was found to lead to. -/
def sizeOfFile (path : Path) (found : Except FileError (List UInt8)) : Except ImageError Size :=
  match found with
  | .ok bytes =>
    if hasExtension path netpbmExtensions then
      match Netpbm.size? bytes with
      | some size => .ok size
      | none => .error .undecodable
    else .error .undecodable
  | .error .isDirectory =>
    if hasExtension path knownExtensions then .error (.file .isDirectory) else .error .undecodable
  | .error cause => .error (.file cause)

/-- What makes pictures of files. -/
structure Reader where
  Picture : Type
  /-- The picture that a path was found to lead to. -/
  decode : Path → Except FileError (List UInt8) → Except ImageError Picture
  size : Picture → Size

/-- Opens an image. -/
def Reader.open (reader : Reader) (path : Path) : Session (Except ImageError reader.Picture) := do
  return reader.decode path (← Session.readFile path)

/-- Pictures of the Netpbm family, known by their size. -/
def netpbm : Reader where
  Picture := Size
  decode := sizeOfFile
  size := id

/-- What makes pictures of files and files of pictures. -/
structure Library extends Reader where
  /-- The picture as packed RGB, the top row first. -/
  pixels : Picture → List UInt8
  length_pixels : ∀ picture : Picture,
    (pixels picture).length = Frame.byteLength (size picture).width (size picture).height
  /-- The file that packed RGB of a size makes, in the format of a path. -/
  encode : Path → Size → List UInt8 → Except ImageError (List UInt8)

end FrameTransition.Image
