import FrameTransition.Error
import FrameTransition.Number.Format
import FrameTransition.Pixels.Words

/-!
# Frames and timestamps

A frame is packed RGB, three bytes a pixel, the top row first. Its data may disagree with its declared
size; `Frame.isPacked` tells. A timestamp counts ticks of a rational time base.

The bytes of a frame are counted in a word, which wraps where the size is beyond all textures. A size that
is known to have one goes without that (`expectedShape`).
-/

namespace FrameTransition

/-- The length of a tick in seconds, as a fraction. -/
structure TimeBase where
  numerator : Int
  denominator : Int
  deriving DecidableEq

/-- A presentation time in ticks. -/
structure Timestamp where
  ticks : Int
  base : TimeBase
  deriving DecidableEq

/-- The time in seconds under a rounding: ticks times numerator, over denominator, rounded after each
step. A zero denominator gives zero. -/
def Timestamp.secondsWith (ρ : Rounding) (t : Timestamp) : Number :=
  if t.base.denominator = 0 then .real 0
  else
    Number.div ρ
      (Number.mul ρ (Number.ofInt ρ t.ticks) (Number.ofInt ρ t.base.numerator))
      (Number.ofInt ρ t.base.denominator)

/-- The time in seconds. -/
def Timestamp.seconds (t : Timestamp) : Number :=
  t.secondsWith Format.binary64.round

/-- Bytes per pixel of packed RGB. -/
def bytesPerPixel : Nat := 3

/-- A frame of packed RGB, the top row first. -/
structure Frame where
  width : Nat
  height : Nat
  timestamp : Option Timestamp
  data : List UInt8
  deriving DecidableEq

namespace Frame

/-- The bytes a packed frame of a size holds. -/
def byteLength (width height : Nat) : Nat :=
  width * height * bytesPerPixel

/-- The bytes a packed frame of a size holds, counted in a word. -/
def wordLength (width height : Nat) : Nat :=
  Pixels.wrappedSize width height bytesPerPixel

/-- A black frame. -/
def blank (width height : Nat) : Frame :=
  ⟨width, height, none, List.replicate (byteLength width height) 0⟩

/-- The data fills the declared size exactly. -/
def isPacked (frame : Frame) : Bool :=
  frame.data.length = wordLength frame.width frame.height

/-- What a size check sees of a frame. -/
def shape (frame : Frame) : FrameShape :=
  ⟨frame.width, frame.height, frame.data.length⟩

/-- The shape of the frames of a size that textures have. -/
def expectedShape (width height : Nat) : FrameShape :=
  ⟨width, height, byteLength width height⟩

/-- Refuses a frame of another shape. -/
def checkShape (frame : Frame) (expected : FrameShape) : Except TransitionError Unit :=
  if frame.shape = expected then .ok () else .error (.dimensionMismatch expected frame.shape)

/-- Refuses a frame that is not packed RGB of exactly the given size. -/
def check (frame : Frame) (width height : Nat) : Except TransitionError Unit :=
  frame.checkShape ⟨width, height, wordLength width height⟩

end Frame

end FrameTransition
