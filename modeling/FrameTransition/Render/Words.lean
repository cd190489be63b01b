import FrameTransition.Pixels.Words
import FrameTransition.Render.Device

/-!
# The check of a size in machine words

`Limits.checkSize` computes the bytes of a read-back buffer without bounds. Here the same check computes
them in the words of `Pixels.Words`, after the sides were compared with the texture's.
-/

namespace FrameTransition.Render.Limits

/-- The refusal of a side that no texture has. -/
def sideError (limits : Limits) (width height : Nat) : TransitionError :=
  .contextCreationFailed s!"{width}x{height} exceeds the device texture limit of {limits.maxTexture}"

/-- The refusal of a read-back buffer that is too large. -/
def bufferError (limits : Limits) (width height needed : Nat) : TransitionError :=
  .contextCreationFailed
    s!"{width}x{height} needs a {needed} byte readback buffer, the device allows {limits.maxBuffer}"

/-- The check, or `none` where a size has left its word. For a side that no texture has, none is computed. -/
def checkSize? (limits : Limits) (width height : Nat) : Option (Except TransitionError Unit) :=
  if limits.maxTexture < width ∨ limits.maxTexture < height then
    some (.error (limits.sideError width height))
  else do
    let needed ← Pixels.readbackSize? width height
    if limits.maxBuffer < needed then some (.error (limits.bufferError width height needed))
    else some (.ok ())

/-- The width is refused before its pitch is computed. -/
example : checkSize? ⟨1073741760, 0⟩ 1073741761 1 ≠ none ∧
    checkSize? ⟨1073741761, 0⟩ 1073741761 1 = none := by
  decide +kernel

end FrameTransition.Render.Limits
