import FrameTransition.Pixels.Rows

/-!
# Sizes in machine words

Widths, heights and pitches are counted in words of 32 bits, the bytes of whole buffers in words of 64.
The functions here compute the sizes of `Pixels.Rows` one step after the other in such words; `none` says
that a step has a result its word does not hold. Where overflow is not checked, the word keeps what is left of the
result (`wrappedSize`), and a buffer of that size is made if there can be one (`largestBuffer`).
-/

namespace FrameTransition.Pixels

/-- A value that an unsigned word of some bits holds. -/
def inWord? (bits value : Nat) : Option Nat :=
  if value < Nat.pow 2 bits then some value else none

/-- The bytes of a row of RGBA pixels. -/
def rowBytes? (width : Nat) : Option Nat :=
  inWord? 32 (width * rgbaSize)

/-- The alignments that a row begins. -/
def begunAlignments (row : Nat) : Nat :=
  if row % pitchAlignment = 0 then row / pitchAlignment else row / pitchAlignment + 1

/-- The row pitch. -/
def paddedBytesPerRow? (width : Nat) : Option Nat := do
  let row ← rowBytes? width
  inWord? 32 (begunAlignments row * pitchAlignment)

/-- The bytes of a picture that is read back. -/
def readbackSize? (width height : Nat) : Option Nat := do
  let pitch ← paddedBytesPerRow? width
  inWord? 64 (pitch * height)

/-- The bytes of a buffer of pixels of some size. -/
def bufferSize? (width height pixelSize : Nat) : Option Nat := do
  let pixels ← inWord? 64 (width * height)
  inWord? 64 (pixels * pixelSize)

/-- What a word of some bits keeps of a value. -/
def wrap (bits value : Nat) : Nat :=
  value % Nat.pow 2 bits

/-- The bytes of a buffer of pixels of some size, as far as words keep them. -/
def wrappedSize (width height pixelSize : Nat) : Nat :=
  wrap 64 (wrap 64 (width * height) * pixelSize)

/-- The most bytes that a buffer can have. -/
def largestBuffer : Nat := Nat.pow 2 63 - 1

/-- The largest width whose pitch fits its word. -/
example : paddedBytesPerRow? 1073741760 = some 4294967040 ∧ paddedBytesPerRow? 1073741761 = none := by
  decide +kernel

end FrameTransition.Pixels
