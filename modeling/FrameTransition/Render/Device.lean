import FrameTransition.Error
import FrameTransition.Number.Basic
import FrameTransition.Pixels.Rows

/-!
# The drawing device

A device draws one size of picture: it takes the frame as rows of RGBA, bottom row first, with the
progress, and copies the drawn rows to a `Target`, from which they are read back. What it can draw is
limited by the largest texture side and the largest buffer.
-/

namespace FrameTransition.Render

/-- What a device can hold. -/
structure Limits where
  maxTexture : Nat
  maxBuffer : Nat
  deriving DecidableEq

/-- Refuses a size whose render target or whose read-back buffer does not fit. The texture is checked
first. -/
def Limits.checkSize (limits : Limits) (width height : Nat) : Except TransitionError Unit :=
  if limits.maxTexture < width ∨ limits.maxTexture < height then
    .error (.contextCreationFailed
      s!"{width}x{height} exceeds the device texture limit of {limits.maxTexture}")
  else
    let needed := Pixels.readbackSize width height
    if limits.maxBuffer < needed then
      .error (.contextCreationFailed
        s!"{width}x{height} needs a {needed} byte readback buffer, the device allows {limits.maxBuffer}")
    else .ok ()

/-- What a drawn picture is read back from: a buffer of RGBA rows, the top one first. -/
structure Target where
  width : Nat
  height : Nat
  /-- Bytes from one row to the next. -/
  pitch : Nat
  /-- Bytes of the buffer. -/
  size : Nat
  deriving DecidableEq

/-- The target for pictures of a size, its rows padded to the pitch of a copy. -/
def Target.create (width height : Nat) : Target :=
  ⟨width, height, Pixels.paddedBytesPerRow width, Pixels.readbackSize width height⟩

/-- One frame to draw. -/
structure Drawing where
  width : Nat
  height : Nat
  progress : Number
  /-- RGBA rows, the bottom one first. -/
  texels : List UInt8
  target : Target
  deriving DecidableEq

/-- What is read back of a buffer: every byte it has. -/
structure Readback (size : Nat) where
  bytes : List UInt8
  length_bytes : bytes.length = size

/-- A buffer of zeros. -/
def Readback.blank (size : Nat) : Readback size :=
  ⟨List.replicate size 0, List.length_replicate⟩

end FrameTransition.Render
