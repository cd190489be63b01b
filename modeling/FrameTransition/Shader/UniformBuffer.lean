import FrameTransition.Number.Format
import FrameTransition.Shader.UniformLayout

/-!
# The buffer behind the parameter block

The parameters of a transition lie in a buffer of the block's size, all zero at first. The size of the
frame is written once and the progress for every frame, as 32-bit numbers with the lowest byte first. A
parameter that the block does not have is not written.

A device refuses a write that does not start and end at a multiple of four bytes, or goes beyond the end.
-/

namespace FrameTransition.Shader

/-- The bytes of a 32-bit number. Of the words that are no number it is the one with the highest fraction
bit alone. -/
def wordBytes (x : Number) : List UInt8 :=
  let word := (Format.binary32.word? x).getD 0x7FC00000
  [.ofNat word, .ofNat (word / 0x100), .ofNat (word / 0x10000), .ofNat (word / 0x1000000)]

/-- What writes start and end at multiples of. -/
def copyAlignment : Nat := 4

/-- The parameters of a transition in memory. -/
structure UniformBuffer where
  block : ParamsBlock
  bytes : List UInt8
  deriving DecidableEq

namespace UniformBuffer

/-- Bytes with others written over them, where a device does that. -/
def overwrite? (bytes : List UInt8) (offset : Nat) (data : List UInt8) : Option (List UInt8) :=
  if offset % copyAlignment = 0 ∧ data.length % copyAlignment = 0 ∧ offset + data.length ≤ bytes.length then
    some (bytes.take offset ++ data ++ bytes.drop (offset + data.length))
  else none

/-- Writes numbers to the place of a parameter. -/
def write? (buffer : UniformBuffer) (offset : Option Nat) (values : List Number) : Option UniformBuffer :=
  match offset with
  | none => some buffer
  | some offset =>
    (overwrite? buffer.bytes offset (values.flatMap wordBytes)).map fun bytes => { buffer with bytes }

/-- Writes the progress of a frame. -/
def setProgress? (buffer : UniformBuffer) (progress : Number) : Option UniformBuffer :=
  buffer.write? buffer.block.progressOffset [progress]

/-- A new buffer for frames of a size, with the progress at zero. -/
def create? (block : ParamsBlock) (width height : Nat) : Option UniformBuffer := do
  let blank : UniformBuffer := ⟨block, List.replicate block.size 0⟩
  let sized ← blank.write? block.resolutionOffset
    [Number.ofInt Format.binary32.round width, Number.ofInt Format.binary32.round height]
  sized.setProgress? (.real 0)

end UniformBuffer

/-- One half, lowest byte first. -/
example : wordBytes (.real (1 / 2)) = [0x00, 0x00, 0x00, 0x3F] := by decide +kernel

end FrameTransition.Shader
