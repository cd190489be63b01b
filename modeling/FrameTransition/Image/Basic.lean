import FrameTransition.FileSystem

/-!
# Images

What a picture on file is known by before its pixels are used: its size. An image fails to open when its
file cannot be read or when its bytes are no picture of the format its name promises.
-/

namespace FrameTransition.Image

/-- The size of a picture in pixels. Either side may be zero. -/
structure Size where
  width : Nat
  height : Nat
  deriving DecidableEq

/-- Why an image could not be opened. -/
inductive ImageError where
  | file (cause : FileError)
  /-- The name promises no known format, or the bytes do not keep the promise. -/
  | undecodable
  deriving DecidableEq

def ImageError.message : ImageError → String
  | file cause => cause.message
  | undecodable => "the file is no image in the format of its name"

/-- The most memory a picture may take, in bytes. -/
def maxMemory : Nat := 512 * 1024 * 1024

end FrameTransition.Image
